import Highlight.Proofs.Registry.Frame
import Highlight.Proofs.Unicode.Lowercase

/-!
# `Highlight.Proofs.Registry.FileTypes`: which spellings of an extension are found

A file name extension is bound in lower case, as the language declares it, and looked up in lower
case without the full stops in front. `Registry.normalExtension` is the second form. It does not
change with full stops in front, and it is the same for all spellings with one lower case
(`normalExtension_congr`), since full stops and lower case do not get into each other's way
(`Highlight.Proofs.Unicode.Lowercase`).

So all that matters is whether a declared extension is bound in the form in which it is looked up.
It is if no full stop stands in front, which is how extensions are meant to be declared.
`findByFileType_declared` is the main statement: such an extension leads to its language in every
spelling. With a full stop in front it is bound under a key that no look-up asks for, and leads to
its language only if that declares the extension without the full stop as well.
`not_findByFileType_declared` shows that it need not.
-/

set_option autoImplicit false

namespace Highlight

namespace Registry

variable {r : Registry} {s t : String}

/-! ### Normal extensions -/

/-- It makes no difference in which order an extension goes to lower case and loses the full stops
in front. -/
theorem normalExtension_eq (extension : String) : normalExtension extension
    = String.ofList ((Unicode.lowercase extension).toList.dropWhile (· == '.')) := by
  rw [normalExtension, Unicode.lowercase, Unicode.lowercase, String.toList_ofList,
    String.toList_ofList, Unicode.lowerFrom_dropWhile]

/-- Extensions of the same lower case are looked up alike, with the same number of full stops in
front or not. -/
theorem normalExtension_congr (h : Unicode.lowercase s = Unicode.lowercase t) :
    normalExtension s = normalExtension t := by
  rw [normalExtension_eq, h, ← normalExtension_eq]

/-- A full stop in front makes no difference to how an extension is looked up. -/
theorem normalExtension_dot (t : String) : normalExtension ("." ++ t) = normalExtension t := by
  rw [normalExtension, normalExtension, String.toList_append]
  rfl

/-- An extension without a full stop in front is looked up in lower case, which is how it is bound.
Only full stops in front are taken away, and no others. -/
theorem normalExtension_of_ne_dot (h : t.toList.head? ≠ some '.') :
    normalExtension t = Unicode.lowercase t := by
  have hdrop : t.toList.dropWhile (· == '.') = t.toList := by
    cases hchars : t.toList with
    | nil => rfl
    | cons c cs =>
        rw [hchars, List.head?_cons] at h
        exact List.dropWhile_cons_of_neg (by simpa using h)
  rw [normalExtension, hdrop, String.ofList_toList]

/-! ### Look-ups -/

/-- After a language has been added, an extension leads to it if and only if the language declares
the extension in the form in which it is looked up. -/
theorem findByFileType_addLanguage_iff (h : r.Regular) (l : Language) (s : String) :
    (r.addLanguage l).findByFileType s = some l ↔ l.DeclaresType (normalExtension s) := by
  rw [findByFileType_eq, typed?_addLanguage h, Language.rebind]
  split
  · rename_i hdeclares
    exact ⟨fun _ => hdeclares, fun _ => rfl⟩
  · rename_i hnot
    refine ⟨fun hfound => ?_, fun hdeclares => absurd hdeclares hnot⟩
    -- What led elsewhere before leads to a language of another name.
    have hname := (Option.filter_eq_some_iff.mp hfound).2
    simp at hname

end Registry

/-- After a language has been added, each extension that it declares leads to it: as it is declared,
with a full stop added in front, and in every spelling with the same lower case. The exception are
extensions that are declared with a full stop in front. They lead to the language if and only if it
also declares what is left of them without it. -/
theorem findByFileType_declared (ops : List Operation) (l : Language) (t : String)
    (ht : t ∈ l.fileTypes) (s : String)
    (hs : s = t ∨ s = "." ++ t ∨ Unicode.lowercase s = Unicode.lowercase t) :
    let r := (Registry.afterAll ops).addLanguage l
    (t.toList.head? ≠ some '.' → r.findByFileType s = some l) ∧
    (r.findByFileType s = some l ↔ l.DeclaresType (Registry.normalExtension t)) := by
  intro r
  -- All the ways to write the type have one normal form.
  have hnormal : Registry.normalExtension s = Registry.normalExtension t := by
    rcases hs with rfl | rfl | hlower
    · rfl
    · exact Registry.normalExtension_dot t
    · exact Registry.normalExtension_congr hlower
  have hiff := Registry.findByFileType_addLanguage_iff (Registry.regular_afterAll ops) l s
  rw [hnormal] at hiff
  refine ⟨fun hdot => hiff.mpr ?_, hiff⟩
  exact ⟨t, ht, Registry.normalExtension_of_ne_dot hdot⟩

/-- A language that declares one of its extensions with a full stop in front and without it, and
another one with the full stop only. -/
def dottedLanguage : Language := ⟨"kotlin", [], ["KT", ".kts", "Kts", ".ktm"], []⟩

/-- What is declared without a full stop is found in all spellings, and what is declared with one is
not found at all unless it is declared without it as well. The Kelvin sign has the lower case of a
K. -/
theorem findByFileType_dotted :
    let r := (Registry.afterAll twoShells).addLanguage dottedLanguage
    r.findByFileType "\u212At" = some dottedLanguage ∧
    r.findByFileType ".KT" = some dottedLanguage ∧ r.findByFileType ".KTS" = some dottedLanguage ∧
    r.findByFileType "..ktm" ≠ some dottedLanguage := by
  intro r
  have hdeclared := findByFileType_declared twoShells dottedLanguage
  refine ⟨?_, ?_, ?_, fun hfound => ?_⟩
  · exact (hdeclared "KT" (by decide) _ (Or.inr (Or.inr (by decide +kernel)))).1 (by decide)
  · exact (hdeclared "KT" (by decide) _ (Or.inr (Or.inl rfl))).1 (by decide)
  · exact (hdeclared ".kts" (by decide) _ (Or.inr (Or.inr (by decide +kernel)))).2.mpr
      (by decide +kernel)
  · exact absurd ((hdeclared ".ktm" (by decide) _ (Or.inr (Or.inl rfl))).2.mp hfound)
      (by decide +kernel)

/-- A declared extension need not be found: with a full stop in front, no look-up asks for it. It is
bound with the full stop, and a look-up takes it away first. -/
theorem not_findByFileType_declared : ¬ ∀ (ops : List Operation) (l : Language) (t : String),
    t ∈ l.fileTypes →
      let r := (Registry.afterAll ops).addLanguage l
      r.findByFileType t = some l ∧ r.findByFileType ("." ++ t) = some l ∧
      ∀ s, Unicode.lowercase s = Unicode.lowercase t → r.findByFileType s = some l := by
  intro h
  have hfound := (h [] dottedLanguage ".ktm" (by decide)).1
  have hiff := Registry.findByFileType_addLanguage_iff (Registry.regular_afterAll []) dottedLanguage
  exact absurd ((hiff ".ktm").mp hfound) (by decide +kernel)

end Highlight
