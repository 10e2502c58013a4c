import Highlight.Proofs.Registry.Slots

/-!
# `Highlight.Proofs.Registry.Provenance`: where bindings come from

A language is found under the names and the file name extensions that it declares, and under the
names that it has been given. `declared_or_given` is the main statement. There are no other ways to
find it, after any operations, and nothing of the language that was in its slot before leads to it.

* A name that is found is declared by the language, or it was given to it (`Registry.Given`) while
  it was in its slot.
* An extension that is found is declared by the language, up to case and the dots in front.
* Where a language takes the place of another one, what led to the old one leads to the new one if
  that declares it, and nowhere otherwise.

`find?_after` and `find?_fileTypes_after` say once how an operation can make a name or an extension
lead to a slot. If it led there before, the operation has not filled the slot, since a language that
is added takes all bindings of its slot away. So what was true of the language in the slot still is.
-/

set_option autoImplicit false

namespace Highlight

/-- The names that a language declares, its own and the others. -/
def Language.Declares (l : Language) (n : String) : Prop := n = l.name ∨ n ∈ l.aliases

/-- So it is with the names that a language declares. -/
instance (l : Language) (n : String) : Decidable (l.Declares n) :=
  inferInstanceAs (Decidable (n = l.name ∨ n ∈ l.aliases))

/-- The file name extensions that a language declares, in the form in which they are looked up. -/
def Language.DeclaresType (l : Language) (key : String) : Prop :=
  ∃ t ∈ l.fileTypes, key = Unicode.lowercase t

/-- A declared extension is in the list of those in lower case. -/
theorem Language.declaresType_iff {l : Language} {key : String} :
    l.DeclaresType key ↔ key ∈ l.fileTypes.map Unicode.lowercase := by
  simp only [DeclaresType, List.mem_map, eq_comm]

namespace Registry

variable {r : Registry} {op : Operation} {l : Language} {n key : String} {slot : Nat}

/-- The language in a slot was given a name as another name of it, and the slot has not been filled
since. -/
def Given (n : String) (slot : Nat) (l : Language) (ops : List Operation) : Prop :=
  Since
    (fun r op => ∃ other, op = .addAlias other n ∧ r.names.find? other = some slot ∧
      r.languageAt? slot = some l)
    (fun r op => r.Fills slot op) ops

/-- A name was given with the last operation, or before it and the slot has not been filled with
it. -/
theorem given_concat (n : String) (slot : Nat) (l : Language) (ops : List Operation)
    (op : Operation) :
    Given n slot l (ops ++ [op]) ↔
      (∃ other, op = .addAlias other n ∧ (afterAll ops).names.find? other = some slot ∧
        (afterAll ops).languageAt? slot = some l) ∨
      (Given n slot l ops ∧ ¬ (afterAll ops).Fills slot op) :=
  since_concat _ _ ops op

/-! ### One operation -/

/-- Only a language that takes the place of another one is put into a slot in use. -/
theorem slotFor_ne (hlt : slot < r.languages.length) (hne : r.slotOf? l.name ≠ some slot) :
    r.slotFor l ≠ slot := by
  unfold slotFor
  cases hslot : r.slotOf? l.name with
  | some taken => exact fun heq => hne (hslot.trans (congrArg some heq))
  | none => exact Ne.symm (Nat.ne_of_lt hlt)

/-- A name leads to a slot after an operation because the language put there declares it, because
it was given to the language there, or because it did so before. -/
theorem find?_after (hr : r.Consistent) (h : r.names.Distinct)
    (hfind : (r.after op).names.find? n = some slot) :
    (∃ l, op.language? = some l ∧ l.Declares n ∧ r.slotFor l = slot) ∨
    (∃ other, op = .addAlias other n ∧ r.names.find? other = some slot) ∨
    (r.names.find? n = some slot ∧ ¬ r.Fills slot op) := by
  rcases after_cases hr op with ⟨l, hl, hafter⟩ | ⟨name, other, rfl, hafter⟩ | ⟨hnone, _, hsame⟩
  · rw [hafter, find?_addLanguage h] at hfind
    split at hfind
    · rename_i hdeclares
      -- The new language declares the name.
      exact Or.inl ⟨l, hl, hdeclares, Option.some.inj hfind⟩
    · split at hfind
      · cases hfind
      · rename_i hne
        -- The name was bound before, and not to the slot that is filled.
        rw [hfind] at hne
        refine Or.inr (Or.inr ⟨hfind, fun hfills => ?_⟩)
        exact slotFor_ne (Bindings.lt_of_find? hr.names hfind) (Ne.symm hne)
          ((fills_iff hl).mp hfills)
  · rw [hafter, find?_addAlias] at hfind
    split at hfind
    · rename_i hother
      exact Or.inr (Or.inl ⟨name, by rw [hother.1], hfind⟩)
    · exact Or.inr (Or.inr ⟨hfind, not_fills rfl⟩)
  · rw [hsame.names] at hfind
    exact Or.inr (Or.inr ⟨hfind, not_fills hnone⟩)

/-- An extension leads to a slot after an operation because the language put there declares it, or
because it did so before. -/
theorem find?_fileTypes_after (hr : r.Consistent) (h : r.fileTypes.Distinct)
    (hfind : (r.after op).fileTypes.find? key = some slot) :
    (∃ l, op.language? = some l ∧ l.DeclaresType key ∧ r.slotFor l = slot) ∨
    (r.fileTypes.find? key = some slot ∧ ¬ r.Fills slot op) := by
  rcases after_cases hr op with ⟨l, hl, hafter⟩ | ⟨name, other, rfl, hafter⟩ | ⟨hnone, _, hsame⟩
  · rw [hafter, find?_fileTypes_addLanguage h] at hfind
    split at hfind
    · rename_i hdeclares
      exact Or.inl ⟨l, hl, Language.declaresType_iff.mpr hdeclares, Option.some.inj hfind⟩
    · split at hfind
      · cases hfind
      · rename_i hne
        rw [hfind] at hne
        refine Or.inr ⟨hfind, fun hfills => ?_⟩
        exact slotFor_ne (Bindings.lt_of_find? hr.fileTypes hfind) (Ne.symm hne)
          ((fills_iff hl).mp hfills)
  · -- An alias is a name, and no file type.
    have hsame : (r.addAlias name other).fileTypes = r.fileTypes := by
      unfold addAlias
      split <;> rfl
    rw [hafter, hsame] at hfind
    exact Or.inr ⟨hfind, not_fills rfl⟩
  · rw [hsame.fileTypes] at hfind
    exact Or.inr ⟨hfind, not_fills hnone⟩

/-- A slot that an operation does not fill holds the same language as before. -/
theorem languageAt?_after_of_not_fills (hr : r.Consistent) (hnot : ¬ r.Fills slot op) :
    (r.after op).languageAt? slot = r.languageAt? slot := by
  rcases languageAt?_after hr op slot with ⟨l, hl, hslot, _⟩ | ⟨_, hsame⟩
  · exact absurd ⟨l, hl, hslot⟩ hnot
  · exact hsame

/-- The language that an operation adds is in its slot afterwards. -/
theorem languageAt?_after_of_language? (hr : r.Consistent) (hl : op.language? = some l) :
    (r.after op).languageAt? (r.slotFor l) = some l := by
  rcases languageAt?_after hr op (r.slotFor l) with ⟨l', hl', _, hafter⟩ | ⟨hnot, _⟩
  · rw [hafter, ← hl', hl]
  · exact absurd ⟨l, hl, rfl⟩ hnot

/-! ### Runs -/

/-- A name that leads to a slot is declared by the language there, or was given to it. By induction
on the operations, where what held of the language in a slot holds as long as the slot is not
filled. -/
theorem find?_provenance (ops : List Operation) (hfind : (afterAll ops).names.find? n = some slot) :
    ∃ l, (afterAll ops).languageAt? slot = some l ∧ (l.Declares n ∨ Given n slot l ops) := by
  induction ops using List.reverseRecOn generalizing n slot with
  | nil => cases hfind
  | append_singleton ops op ih =>
      have hr := consistent_afterAll ops
      rw [afterAll_concat] at hfind ⊢
      rcases find?_after hr (distinct_afterAll ops) hfind with
        ⟨l, hl, hdeclares, rfl⟩ | ⟨other, rfl, hother⟩ | ⟨hbefore, hnot⟩
      · exact ⟨l, languageAt?_after_of_language? hr hl, Or.inl hdeclares⟩
      · obtain ⟨l, hl, _⟩ := languageAt?_of_find? hr hother
        -- The name is given in this operation, to the language that the other name stands for.
        refine ⟨l, (languageAt?_after_of_not_fills hr (not_fills rfl)).trans hl, Or.inr ?_⟩
        exact (given_concat n slot l ops _).mpr (Or.inl ⟨other, rfl, hother, hl⟩)
      · obtain ⟨l, hl, hreason⟩ := ih hbefore
        refine ⟨l, (languageAt?_after_of_not_fills hr hnot).trans hl, hreason.imp_right ?_⟩
        -- It was given earlier, and its slot has not been filled in between.
        exact fun hgiven => (given_concat n slot l ops op).mpr (Or.inr ⟨hgiven, hnot⟩)

/-- An extension that leads to a slot is declared by the language there. Extensions cannot be given,
so there is no other reason. -/
theorem find?_fileTypes_provenance (ops : List Operation)
    (hfind : (afterAll ops).fileTypes.find? key = some slot) :
    ∃ l, (afterAll ops).languageAt? slot = some l ∧ l.DeclaresType key := by
  induction ops using List.reverseRecOn generalizing slot with
  | nil => cases hfind
  | append_singleton ops op ih =>
      have hr := consistent_afterAll ops
      rw [afterAll_concat] at hfind ⊢
      rcases find?_fileTypes_after hr (distinct_fileTypes_afterAll ops) hfind with
        ⟨l, hl, hdeclares, rfl⟩ | ⟨hbefore, hnot⟩
      · exact ⟨l, languageAt?_after_of_language? hr hl, hdeclares⟩
      · obtain ⟨l, hl, hdeclares⟩ := ih hbefore
        exact ⟨l, (languageAt?_after_of_not_fills hr hnot).trans hl, hdeclares⟩

/-! ### Replacement -/

/-- What a key leads to once the keys of a slot have been bound anew: those that are declared lead
to the slot, and others that did lead nowhere. -/
theorem rebound {declares : Prop} [Decidable declares] {old new : Option Nat}
    (hnew : new = if declares then some slot else if old = some slot then none else old) :
    (new = some slot ↔ declares) ∧ (old = some slot → ¬ declares → new = none) := by
  subst hnew
  by_cases hdeclares : declares
  · rw [if_pos hdeclares]
    exact ⟨iff_of_true rfl hdeclares, fun _ hnot => absurd hdeclares hnot⟩
  · rw [if_neg hdeclares]
    by_cases hold : old = some slot
    · rw [if_pos hold]
      exact ⟨iff_of_false (by simp) hdeclares, fun _ _ => rfl⟩
    · rw [if_neg hold]
      exact ⟨iff_of_false hold hdeclares, fun heq => absurd heq hold⟩

/-- After a language has taken a slot from another one, the names that it declares lead to the
slot. Others that did lead nowhere. -/
theorem find?_replaced (h : r.names.Distinct) (hslot : r.slotOf? l.name = some slot) (n : String) :
    ((r.addLanguage l).names.find? n = some slot ↔ l.Declares n) ∧
    (r.names.find? n = some slot → ¬ l.Declares n → (r.addLanguage l).names.find? n = none) := by
  refine rebound ?_
  rw [find?_addLanguage h, slotFor_of_slotOf? hslot, hslot]
  rfl

/-- After a language has taken a slot from another one, the extensions that it declares lead to the
slot. Others that did lead nowhere. -/
theorem find?_fileTypes_replaced (h : r.fileTypes.Distinct)
    (hslot : r.slotOf? l.name = some slot) (key : String) :
    ((r.addLanguage l).fileTypes.find? key = some slot ↔ l.DeclaresType key) ∧
    (r.fileTypes.find? key = some slot → ¬ l.DeclaresType key →
      (r.addLanguage l).fileTypes.find? key = none) := by
  rw [Language.declaresType_iff]
  refine rebound ?_
  rw [find?_fileTypes_addLanguage h, slotFor_of_slotOf? hslot, hslot]

end Registry

/-- After any operations, a language is found only under names that it declares, or that were given
to it while it was in its slot, and only for file name extensions that it declares. When an
operation puts a language in the place of another one, what led to the old one leads to the new one
if that declares it, and nowhere otherwise. -/
theorem declared_or_given (ops : List Operation) :
    let r := Registry.afterAll ops
    (∀ n l, r.language? n = some l →
      ∃ slot, r.names.find? n = some slot ∧ r.languageAt? slot = some l ∧
        (l.Declares n ∨ Registry.Given n slot l ops)) ∧
    (∀ extension l, r.findByFileType extension = some l →
      l.DeclaresType (Registry.normalExtension extension)) ∧
    ∀ op l slot, op.language? = some l → r.slotOf? l.name = some slot →
      (∀ n, ((r.after op).names.find? n = some slot ↔ l.Declares n) ∧
        (r.names.find? n = some slot → ¬ l.Declares n → ¬ (r.after op).contains n)) ∧
      ∀ key, ((r.after op).fileTypes.find? key = some slot ↔ l.DeclaresType key) ∧
        (r.fileTypes.find? key = some slot → ¬ l.DeclaresType key →
          (r.after op).fileTypes.find? key = none) := by
  intro r
  have hr : r.Consistent := Registry.consistent_afterAll ops
  refine ⟨fun n l hl => ?_, fun extension l hl => ?_, fun op l slot hop hslot => ?_⟩
  · obtain ⟨slot, hfind, hat⟩ := Option.bind_eq_some_iff.mp hl
    obtain ⟨l', hat', hreason⟩ := Registry.find?_provenance ops hfind
    -- The slot of the name has one language, so the provenance is that of `l`.
    obtain rfl : l = l' := Option.some.inj (hat.symm.trans hat')
    exact ⟨slot, hfind, hat, hreason⟩
  · obtain ⟨slot, hfind, hat⟩ := Option.bind_eq_some_iff.mp hl
    obtain ⟨l', hat', hdeclares⟩ := Registry.find?_fileTypes_provenance ops hfind
    obtain rfl : l = l' := Option.some.inj (hat.symm.trans hat')
    exact hdeclares
  · have hafter : r.after op = r.addLanguage l := Registry.after_of_language? hr hop
    rw [hafter]
    refine ⟨fun n => ?_, Registry.find?_fileTypes_replaced
      (Registry.distinct_fileTypes_afterAll ops) hslot⟩
    obtain ⟨hiff, hnone⟩ := Registry.find?_replaced (Registry.distinct_afterAll ops) hslot n
    refine ⟨hiff, fun hfind hnot => ?_⟩
    rw [Registry.contains, hnone hfind hnot]
    simp

/-- A language that takes the place of another one, with a name and an extension in another case. -/
def laterShell : Language := ⟨"sh", ["bash"], ["Bash"], []⟩

/-- Two languages of one name, one after the other. Both are given names, the second one by a name
that it was given itself. -/
def renewed : List Operation :=
  [.addLanguage ⟨"sh", ["posix"], ["SH"], []⟩, .addAlias "posix" "shell",
    .addLanguage laterShell, .addAlias "bash" "ksh", .addAlias "ksh" "zsh"]

/-- The second language is found under a name that it was given, and for an extension in another
case. A third one of that name keeps nothing of this. -/
theorem renewed_declared_or_given :
    ((Registry.afterAll renewed).language? "zsh" = some laterShell ∧
      ∃ slot, Registry.Given "zsh" slot laterShell renewed) ∧
    ((Registry.afterAll renewed).findByFileType "..bASH" = some laterShell ∧
      laterShell.DeclaresType (Registry.normalExtension "..bASH")) ∧
    ¬ ((Registry.afterAll renewed).after (.addLanguage (.empty "sh"))).contains "zsh" := by
  have hzsh : (Registry.afterAll renewed).language? "zsh" = some laterShell := by decide
  have htype : (Registry.afterAll renewed).findByFileType "..bASH" = some laterShell := by decide
  obtain ⟨hnames, htypes, hreplaced⟩ := declared_or_given renewed
  obtain ⟨slot, _, _, hreason⟩ := hnames "zsh" laterShell hzsh
  have hnot : ¬ laterShell.Declares "zsh" := by decide
  refine ⟨⟨hzsh, slot, hreason.resolve_left hnot⟩, ⟨htype, htypes _ _ htype⟩, ?_⟩
  have hold : (Registry.afterAll renewed).names.find? "zsh" = some 0 := by decide
  exact ((hreplaced (.addLanguage (.empty "sh")) (.empty "sh") 0 rfl (by decide)).1 "zsh").2 hold
    (by decide)

end Highlight
