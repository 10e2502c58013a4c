import Highlight.Proofs.Registry.Provenance
import Highlight.Proofs.Registry.Sharing
import Mathlib.Data.List.Sort
import Mathlib.Data.String.Basic

/-!
# `Highlight.Proofs.Registry.Frame`: what adding a language changes

Adding a language empties the slot of the language that it replaces, puts the new one there and
binds its names. The order of these steps does not show. `Registry.IsAddition` says what does, and
`afterAll_isAddition` is the main statement.

* What the language declares leads to it. What led to the language that it replaces leads nowhere,
  and all else to where it led before (`Language.rebind`). That is the same for names and for file
  name extensions.
* All other languages stay in their slots, with their patterns, and stylings with them give what
  they gave before.
* The name of the language is listed once, in its place.

The language that is replaced is the one with the same name. There is one at most, since no two
languages of a registry have the same name. This is the part of `Registry.Regular` that is new here.
-/

set_option autoImplicit false

namespace Highlight

/-- The types that a language declares are listed in it, so it can be decided which they are. -/
instance (l : Language) (key : String) : Decidable (l.DeclaresType key) :=
  decidable_of_iff' _ Language.declaresType_iff

/-- What a key leads to once a language has been added: to the language if it declares the key, and
otherwise to where it led before, unless that was a language of the same name. It is the same for
names and for extensions, and does not mention slots. -/
def Language.rebind (l : Language) (declares : Prop) [Decidable declares]
    (old : Option Language) : Option Language :=
  if declares then some l else old.filter fun other => other.name != l.name

namespace Registry

variable {r : Registry} {l other : Language} {n : String} {slot : Nat}

/-! ### Languages and their names -/

/-- A name has no slot if no language has it as its own name. -/
theorem slotOf?_eq_none_iff : r.slotOf? n = none ↔ n ∉ r.languages.map (·.name) := by
  simp [slotOf?, List.findIdx?_eq_none_iff]

/-- The slot of a name holds a language of that name, since it was looked for by its name. -/
theorem languageAt?_of_slotOf? (h : r.slotOf? n = some slot) :
    ∃ l, r.languageAt? slot = some l ∧ l.name = n := by
  obtain ⟨hlt, hname, _⟩ := List.findIdx?_eq_some_iff_getElem.mp h
  exact ⟨_, List.getElem?_eq_getElem hlt, beq_iff_eq.mp hname⟩

/-- A language that replaces another one has its name, and one that does not has a new name. So no
two languages have the same name. -/
theorem nodup_names_addLanguage (h : (r.languages.map (·.name)).Nodup) (l : Language) :
    ((r.addLanguage l).languages.map (·.name)).Nodup := by
  rw [map_name_addLanguage]
  cases hslot : r.slotOf? l.name with
  | some slot => exact h
  | none =>
      have hnot := slotOf?_eq_none_iff.mp hslot
      simpa [List.nodup_append, h] using hnot

/-- No operation makes two languages have the same name. Only adding a language changes the names of
the languages at all. -/
theorem nodup_names_after (hr : r.Consistent) (h : (r.languages.map (·.name)).Nodup)
    (op : Operation) : ((r.after op).languages.map (·.name)).Nodup := by
  rcases after_cases hr op with ⟨l, _, hafter⟩ | ⟨name, other, _, hafter⟩ | ⟨_, _, hsame⟩
  · rw [hafter]
    exact nodup_names_addLanguage h l
  · rw [hafter, addAlias]
    split <;> exact h
  · rw [hsame.languages]
    exact h

/-- What holds of a registry after any operations. The fields are the invariants of single modules,
and the last one is that of this module. -/
structure Regular (r : Registry) : Prop where
  consistent : r.Consistent
  names : r.names.Distinct
  fileTypes : r.fileTypes.Distinct
  ticketed : r.Ticketed
  /-- No two languages have the same name. -/
  languages : (r.languages.map (·.name)).Nodup

/-- Each operation keeps all of it. -/
theorem regular_after (h : r.Regular) (op : Operation) : (r.after op).Regular where
  consistent := consistent_after h.consistent op
  names := distinct_after h.consistent h.names op
  fileTypes := distinct_fileTypes_after h.consistent h.fileTypes op
  ticketed := ticketed_after h.consistent h.ticketed op
  languages := nodup_names_after h.consistent h.languages op

/-- Adding a language is one of the operations. -/
theorem regular_addLanguage (h : r.Regular) (l : Language) : (r.addLanguage l).Regular :=
  regular_after h (.addLanguage l)

/-- After any operations a registry is regular. The lemmas below ask for this and nothing else, so
they hold in the middle of a run as well. -/
theorem regular_afterAll (ops : List Operation) : (afterAll ops).Regular where
  consistent := consistent_afterAll ops
  names := distinct_afterAll ops
  fileTypes := distinct_fileTypes_afterAll ops
  ticketed := ticketed_afterAll ops
  languages := by
    induction ops using List.reverseRecOn with
    | nil => exact List.nodup_nil
    | append_singleton ops op ih =>
        rw [afterAll_concat]
        exact nodup_names_after (consistent_afterAll ops) ih op

/-- The slot of a name is the one that holds the language of that name. There is one such slot at
most, since no two languages have the same name. -/
theorem slotOf?_eq_some_iff (h : r.Regular) :
    r.slotOf? n = some slot ↔ ∃ l, r.languageAt? slot = some l ∧ l.name = n := by
  refine ⟨languageAt?_of_slotOf?, ?_⟩
  rintro ⟨l, hl, rfl⟩
  obtain ⟨hlt, hat⟩ := List.getElem?_eq_some_iff.mp hl
  cases hslot : r.slotOf? l.name with
  | none =>
      refine absurd ?_ (slotOf?_eq_none_iff.mp hslot)
      exact List.mem_map_of_mem (List.mem_of_getElem? hl)
  | some taken =>
      -- Two slots with languages of one name are the same.
      obtain ⟨l', hl', hname⟩ := languageAt?_of_slotOf? hslot
      have hat' : (r.languages.map (·.name))[taken]? = (r.languages.map (·.name))[slot]? := by
        rw [List.getElem?_map, List.getElem?_map]
        show (r.languageAt? taken).map _ = (r.languageAt? slot).map _
        rw [hl, hl', Option.map_some, Option.map_some, hname]
      have hlt' : taken < (r.languages.map (·.name)).length := by
        rw [List.length_map]
        exact lt_of_slotOf? hslot
      rw [(List.getElem?_inj hlt' h.languages).mp hat']

/-- A language of another name is not in the slot that a language takes, so it stays where it is.
The slot has a language of the same name in it, or none. -/
theorem ne_slotFor (hother : r.languageAt? slot = some other) (hne : other.name ≠ l.name) :
    slot ≠ r.slotFor l := by
  rintro rfl
  unfold slotFor at hother
  cases hslot : r.slotOf? l.name with
  | some taken =>
      obtain ⟨l', hl', hname⟩ := languageAt?_of_slotOf? hslot
      rw [hslot, Option.getD_some, hl'] at hother
      cases hother
      exact hne hname
  | none =>
      rw [hslot, Option.getD_none, languageAt?, List.getElem?_eq_none (Nat.le_refl _)] at hother
      cases hother

/-! ### Keys -/

/-- The language that an extension leads to in the form in which it is looked up. -/
def typed? (r : Registry) (key : String) : Option Language :=
  (r.fileTypes.find? key).bind r.languageAt?

/-- A look-up goes by the normal form of the extension. -/
theorem findByFileType_eq (extension : String) :
    r.findByFileType extension = r.typed? (normalExtension extension) := rfl

/-- What a key leads to after a language has been added, from the slots that it is bound to before
and after. Names and extensions are bound in the same way, so this is shown once for both. -/
theorem bind_languageAt?_addLanguage (h : r.Regular) {declares : Prop} [Decidable declares]
    {old new : Option Nat} (hlt : ∀ slot, old = some slot → slot < r.languages.length)
    (hnew : new = if declares then some (r.slotFor l)
      else if old = r.slotOf? l.name then none else old) :
    new.bind (r.addLanguage l).languageAt? = l.rebind declares (old.bind r.languageAt?) := by
  subst hnew
  unfold Language.rebind
  by_cases hdeclares : declares
  · rw [if_pos hdeclares, if_pos hdeclares, Option.bind_some, languageAt?_addLanguage, if_pos rfl]
  · rw [if_neg hdeclares, if_neg hdeclares]
    cases old with
    | none => simp
    | some slot =>
        obtain ⟨other, hat⟩ : ∃ other, r.languageAt? slot = some other :=
          ⟨_, List.getElem?_eq_getElem (hlt slot rfl)⟩
        rw [Option.bind_some, hat]
        by_cases hname : other.name = l.name
        · -- This is the language that is replaced.
          have hslot := (slotOf?_eq_some_iff h).mpr ⟨other, hat, hname⟩
          rw [if_pos hslot.symm, Option.filter_some]
          simp [hname]
        · have hslot : ¬ some slot = r.slotOf? l.name := by
            intro heq
            obtain ⟨l', hl', hname'⟩ := languageAt?_of_slotOf? heq.symm
            cases hat.symm.trans hl'
            exact hname hname'
          rw [if_neg hslot, Option.bind_some, languageAt?_addLanguage,
            if_neg (ne_slotFor hat hname), hat, Option.filter_some]
          simp [hname]

/-- What a name leads to after a language has been added. -/
theorem language?_addLanguage (h : r.Regular) (l : Language) (n : String) :
    (r.addLanguage l).language? n = l.rebind (l.Declares n) (r.language? n) := by
  refine bind_languageAt?_addLanguage h (fun slot => Bindings.lt_of_find? h.consistent.names) ?_
  rw [find?_addLanguage h.names]
  rfl

/-- What an extension leads to after a language has been added. -/
theorem typed?_addLanguage (h : r.Regular) (l : Language) (key : String) :
    (r.addLanguage l).typed? key = l.rebind (l.DeclaresType key) (r.typed? key) := by
  refine bind_languageAt?_addLanguage h (fun slot => Bindings.lt_of_find? h.consistent.fileTypes) ?_
  rw [find?_fileTypes_addLanguage h.fileTypes]
  simp only [Language.declaresType_iff]

/-! ### Listed names -/

/-- The names that are listed are those of the languages, in another order. -/
theorem perm_languageNames (r : Registry) : r.languageNames.Perm (r.languages.map (·.name)) :=
  List.mergeSort_perm _ _

/-- They are listed in ascending order. -/
theorem pairwise_languageNames (r : Registry) : r.languageNames.Pairwise (· ≤ ·) :=
  List.pairwise_mergeSort' (· ≤ ·) _

/-- The same names are listed in the same order, whatever slots their languages are in. -/
theorem languageNames_eq_of_perm {r r' : Registry}
    (h : (r.languages.map (·.name)).Perm (r'.languages.map (·.name))) :
    r.languageNames = r'.languageNames :=
  List.Perm.eq_of_pairwise' (pairwise_languageNames r) (pairwise_languageNames r')
    ((perm_languageNames r).trans (h.trans (perm_languageNames r').symm))

/-- A new name is listed in its place, and a name that is listed already is not listed again. So the
list is the old one with at most one name inserted. -/
theorem languageNames_addLanguage (l : Language) :
    (r.addLanguage l).languageNames = if l.name ∈ r.languageNames then r.languageNames
      else r.languageNames.orderedInsert (· ≤ ·) l.name := by
  have hnames := map_name_addLanguage (r := r) l
  cases hslot : r.slotOf? l.name with
  | some slot =>
      obtain ⟨l', hl', hname⟩ := languageAt?_of_slotOf? hslot
      have hmem : l.name ∈ r.languageNames := by
        rw [mem_languageNames, ← hname]
        exact List.mem_map_of_mem (List.mem_of_getElem? hl')
      rw [hslot] at hnames
      rw [if_pos hmem]
      exact languageNames_eq_of_perm (.of_eq hnames)
  | none =>
      have hnot : l.name ∉ r.languageNames := by
        rw [mem_languageNames]
        exact slotOf?_eq_none_iff.mp hslot
      rw [hslot] at hnames
      rw [if_neg hnot]
      -- Both lists are in order, so it is enough that they have the same elements.
      refine List.Perm.eq_of_pairwise' (pairwise_languageNames _)
        ((pairwise_languageNames r).orderedInsert l.name _) ?_
      have hcons : (r.addLanguage l).languageNames.Perm (l.name :: r.languages.map (·.name)) := by
        refine (perm_languageNames _).trans ?_
        rw [hnames]
        exact List.perm_append_singleton _ _
      have hlisted := hcons.trans ((perm_languageNames r).symm.cons l.name)
      exact hlisted.trans (List.perm_orderedInsert _ _ _).symm

/-! ### Stylers -/

/-- A styling is that of the styler. So what is said of stylers carries over to stylings. -/
theorem style_eq_bind (r : Registry) (text name : String) (options : Options) :
    (r.style text name options).1
      = (r.styler name options).1 >>= fun s => s.spans text options := by
  unfold style
  rcases r.styler name options with ⟨result, r'⟩
  cases result <;> rfl

/-- A styler depends on the slot that it is asked for in, the language and the pattern there, and
the number of patterns that there have been. If two registries agree on these, they either stay as
they are, or keep the same pattern in their slots. -/
theorem styler_congr {r' : Registry} {slot' : Nat} {name : String} {options : Options}
    (hslot : r.resolve name options = .ok slot) (hslot' : r'.resolve name options = .ok slot')
    (hl : r.languageAt? slot = some l) (hl' : r'.languageAt? slot' = some l)
    (hkept : r.compiled.lookup slot = r'.compiled.lookup slot')
    (hticket : r.nextTicket = r'.nextTicket) :
    (r.styler name options).1 = (r'.styler name options).1 ∧
      (((r.styler name options).2 = r ∧ (r'.styler name options).2 = r') ∨
        ∃ p, (r.styler name options).2 = r.keep slot p ∧
          (r'.styler name options).2 = r'.keep slot' p) := by
  unfold styler
  rw [hslot, hslot']
  simp only [hl, hl', stylerAt, ← hkept]
  -- The kept pattern is the same, so either both have one, or both compile the same language.
  cases r.compiled.lookup slot with
  | some s => exact ⟨rfl, Or.inl ⟨rfl, rfl⟩⟩
  | none =>
      cases Pattern.ofLanguage l with
      | error e => exact ⟨rfl, Or.inl ⟨rfl, rfl⟩⟩
      | ok p => exact ⟨by rw [hticket], Or.inr ⟨p, rfl, rfl⟩⟩

/-! ### The effect -/

/-- What adding a language makes of a registry. It speaks of what can be asked of the registry, and
of the slots where other languages stay. -/
structure IsAddition (r : Registry) (l : Language) (r' : Registry) : Prop where
  /-- The names that it declares lead to it, and others where they did before, unless that was the
  language that it replaces. -/
  names : ∀ n, r'.language? n = l.rebind (l.Declares n) (r.language? n)
  /-- The same holds of file name extensions, in the form in which they are looked up. -/
  fileTypes : ∀ key, r'.typed? key = l.rebind (l.DeclaresType key) (r.typed? key)
  /-- It is in its slot, and has no pattern yet. -/
  own : r'.languageAt? (r.slotFor l) = some l ∧ r'.compiled.lookup (r.slotFor l) = none
  /-- The languages of other names are in the slots where they were. -/
  others : ∀ slot other, other.name ≠ l.name →
    (r'.languageAt? slot = some other ↔ r.languageAt? slot = some other)
  /-- They have the patterns that they had. -/
  patterns : ∀ slot other, r.languageAt? slot = some other → other.name ≠ l.name →
    r'.compiled.lookup slot = r.compiled.lookup slot
  /-- Names that still resolve to them give the same stylers and spans. -/
  stylings : ∀ slot other, r.languageAt? slot = some other → other.name ≠ l.name →
    ∀ n options, r.resolve n options = .ok slot → r'.resolve n options = .ok slot →
      (r'.styler n options).1 = (r.styler n options).1 ∧
      ∀ text, (r'.style text n options).1 = (r.style text n options).1
  /-- Its name is listed in its place. No other name comes or goes. -/
  listed : r'.languageNames = if l.name ∈ r.languageNames then r.languageNames
    else r.languageNames.orderedInsert (· ≤ ·) l.name

/-- The slot that a language takes has no pattern afterwards, and all other slots have those that
they had. -/
theorem lookup_addLanguage (h : r.Regular) (l : Language) (slot : Nat) :
    (r.addLanguage l).compiled.lookup slot
      = if slot = r.slotFor l then none else r.compiled.lookup slot := by
  have hl : (Operation.addLanguage l).language? = some l := rfl
  exact lookup_after_of_language? h.consistent hl slot

/-- A language of another name is in a slot if and only if it was there before. In the slot that has
been filled it is neither before nor after. -/
theorem languageAt?_addLanguage_iff (hne : other.name ≠ l.name) :
    (r.addLanguage l).languageAt? slot = some other ↔ r.languageAt? slot = some other := by
  rw [languageAt?_addLanguage]
  split
  · rename_i hslot
    constructor
    · intro heq
      cases heq
      exact absurd rfl hne
    · exact fun hother => absurd hslot (ne_slotFor hother hne)
  · exact Iff.rfl

/-- A language of another name keeps its pattern. -/
theorem lookup_addLanguage_of_ne (h : r.Regular) (hother : r.languageAt? slot = some other)
    (hne : other.name ≠ l.name) :
    (r.addLanguage l).compiled.lookup slot = r.compiled.lookup slot := by
  rw [lookup_addLanguage h, if_neg (ne_slotFor hother hne)]

/-- Adding a language to a regular registry has the effect that `IsAddition` describes. Each of its
parts has been shown above, for names and extensions by the same lemma. -/
theorem isAddition_addLanguage (h : r.Regular) (l : Language) :
    r.IsAddition l (r.addLanguage l) where
  names := language?_addLanguage h l
  fileTypes := typed?_addLanguage h l
  own := by
    rw [languageAt?_addLanguage, lookup_addLanguage h, if_pos rfl, if_pos rfl]
    exact ⟨rfl, rfl⟩
  others slot other hne := languageAt?_addLanguage_iff hne
  patterns slot other hother hne := lookup_addLanguage_of_ne h hother hne
  stylings slot other hother hne n options hslot hslot' := by
    have hstyler := (styler_congr hslot' hslot ((languageAt?_addLanguage_iff hne).mpr hother)
      hother (lookup_addLanguage_of_ne h hother hne) (nextTicket_addLanguage l)).1
    refine ⟨hstyler, fun text => ?_⟩
    rw [style_eq_bind, style_eq_bind, hstyler]
  listed := languageNames_addLanguage l

end Registry

/-- After any operations, adding a language has this effect, whatever its names and extensions led
to before. The registry has the invariants that a run keeps, and nothing else is asked of it. -/
theorem afterAll_isAddition (ops : List Operation) (l : Language) :
    (Registry.afterAll ops).IsAddition l ((Registry.afterAll ops).addLanguage l) :=
  Registry.isAddition_addLanguage (Registry.regular_afterAll ops) l

/-- Two languages, of which one has been used, so that its pattern is kept. -/
def twoShells : List Operation :=
  [.addLanguage ⟨"sh", ["posix"], ["sh"], []⟩, .addLanguage ⟨"fish", ["friendly"], ["Fish"], []⟩,
    .styler "fish" .standard]

/-- A language that replaces the first of them, and takes a name and an extension of the second. -/
def takingShell : Language := ⟨"sh", ["friendly", "sh", "friendly"], ["fISH"], []⟩

/-- The first language leaves nothing behind, and the second one stays under its name, with the
pattern that it had. -/
theorem twoShells_isAddition :
    let r := Registry.afterAll twoShells
    let r' := r.addLanguage takingShell
    r'.language? "posix" = none ∧ r'.language? "friendly" = some takingShell ∧
    r'.findByFileType ".FISH" = some takingShell ∧ r'.findByFileType "sh" = none ∧
    (r'.styler "fish" .standard).1 = (r.styler "fish" .standard).1 := by
  intro r r'
  have hadded := afterAll_isAddition twoShells takingShell
  have hother : r.languageAt? 1 = some ⟨"fish", ["friendly"], ["Fish"], []⟩ := by decide +kernel
  refine ⟨?_, ?_, ?_, ?_, ?_⟩
  · exact (hadded.names "posix").trans (by decide +kernel)
  · exact (hadded.names "friendly").trans (by decide +kernel)
  · exact (hadded.fileTypes _).trans (by decide +kernel)
  · exact (hadded.fileTypes _).trans (by decide +kernel)
  · exact (hadded.stylings 1 _ hother (by decide) "fish" .standard (by decide +kernel)
      (by decide +kernel)).1

end Highlight
