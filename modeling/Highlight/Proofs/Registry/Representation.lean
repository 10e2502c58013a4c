import Highlight.Proofs.Registry.Frame

/-!
# `Highlight.Proofs.Registry.Representation`: names, slots and languages stay in step

A registry holds its languages in a list, and three maps point into it by slot. The list grows, and
it is written over in place. `Registry.IsIndexed` says that the maps stay in step with it.

* No two languages have the same name, and all slots that are mentioned anywhere are slots of the
  list.
* So a look-up that has found a slot finds a language in it. No operation comes to the part of its
  definition for an empty slot.

`afterAll_isIndexed` is the main statement. It also says which names are listed, in ascending order:
those of all languages that have been added. An operation adds the language `Operation.language?`,
if it has one, and a file has one if and only if adding it succeeds (`addFile_cases`).

The invariant itself is `Registry.Regular`, which all operations keep. For the names that are
listed, `mem_languageNames_after` says what one operation does, and `mem_languageNames_afterAll`
follows by induction, the last operation first.
-/

set_option autoImplicit false

namespace Highlight

namespace Registry

variable {r : Registry} {n : String}

/-! ### Slots -/

/-- The maps of a registry are in step with its languages. The first four fields are about what is
stored, and the last three about what a look-up finds. -/
structure IsIndexed (r : Registry) : Prop where
  /-- No two languages have the same name. -/
  languages : (r.languages.map (·.name)).Nodup
  /-- All names are bound to slots below the number of languages, -/
  names : ∀ e ∈ r.names.entries, e.2 < r.languages.length
  /-- and so are all file name extensions. -/
  fileTypes : ∀ e ∈ r.fileTypes.entries, e.2 < r.languages.length
  /-- Patterns are kept for such slots only. -/
  compiled : ∀ e ∈ r.compiled, e.1 < r.languages.length
  /-- There is a language in the slot of a name, -/
  named : ∀ n slot, r.names.find? n = some slot → ∃ l, r.languageAt? slot = some l
  /-- in the slot of an extension, -/
  typed : ∀ key slot, r.fileTypes.find? key = some slot → ∃ l, r.languageAt? slot = some l
  /-- and in the slot that a styler is made for. -/
  resolved : ∀ n options slot, r.resolve n options = .ok slot → ∃ l, r.languageAt? slot = some l

/-- There is a language in a slot below the number of languages. -/
theorem exists_languageAt? {slot : Nat} (h : slot < r.languages.length) :
    ∃ l, r.languageAt? slot = some l :=
  ⟨_, List.getElem?_eq_getElem h⟩

/-- A regular registry is in step. That each look-up finds a language follows from where names and
patterns may point to. -/
theorem isIndexed (h : r.Regular) : r.IsIndexed where
  languages := h.languages
  names := h.consistent.names
  fileTypes := h.consistent.fileTypes
  compiled _ he := h.consistent.lt_of_mem_compiled he
  named _ _ hfind := exists_languageAt? (Bindings.lt_of_find? h.consistent.names hfind)
  typed _ _ hfind := exists_languageAt? (Bindings.lt_of_find? h.consistent.fileTypes hfind)
  resolved n options slot hslot := by
    -- A name is resolved to a slot with a language in it, or not at all.
    rcases resolve_spec h.consistent n options with ⟨slot', l, hslot', hl, _⟩ | ⟨herror, _⟩
    · cases hslot.symm.trans hslot'
      exact ⟨l, hl⟩
    · rw [herror] at hslot
      cases hslot

/-! ### Listed names -/

/-- No name is listed twice, so that the order is strict. -/
theorem ascending_languageNames (h : r.Regular) : r.languageNames.Pairwise (· < ·) := by
  have hdistinct : r.languageNames.Nodup := (perm_languageNames r).nodup_iff.mpr h.languages
  refine ((pairwise_languageNames r).and hdistinct).imp fun hboth => ?_
  exact lt_of_le_of_ne hboth.1 hboth.2

/-- One of the operations has added a language of a name. The language may have been replaced
since. -/
def Added (n : String) (ops : List Operation) : Prop :=
  ∃ op ∈ ops, ∃ l, op.language? = some l ∧ n = l.name

/-- A language was added with the last operation, or before it. -/
theorem added_concat (ops : List Operation) (op : Operation) :
    Added n (ops ++ [op]) ↔ Added n ops ∨ ∃ l, op.language? = some l ∧ n = l.name := by
  simp only [Added, List.mem_append, List.mem_singleton, or_and_right, exists_or, exists_eq_left]

/-- The names that are listed are those of all languages that have been added, since a language is
only replaced by one of its own name. -/
theorem mem_languageNames_afterAll (ops : List Operation) :
    n ∈ (afterAll ops).languageNames ↔ Added n ops := by
  induction ops using List.reverseRecOn with
  | nil => simp [mem_languageNames, afterAll, empty, Added]
  | append_singleton ops op ih =>
      rw [afterAll_concat, mem_languageNames_after (consistent_afterAll ops), ih, added_concat]

/-- A file is added with the language that it defines. If it defines none, adding it fails, and the
registry stays as it is. -/
theorem addFile_cases (r : Registry) (f : File) :
    (∃ l, (Operation.addFile f).language? = some l ∧ r.addFile f = .ok (r.addLanguage l)) ∨
    ((Operation.addFile f).language? = none ∧ (∃ e, r.addFile f = .error e) ∧
      r.after (.addFile f) = r) := by
  rw [addFile_eq, after_addFile_eq, Operation.language?]
  cases Definition.ofFile f >>= fun d => d.toLanguage with
  | error e => exact Or.inr ⟨rfl, ⟨e, rfl⟩, rfl⟩
  | ok l => exact Or.inl ⟨l, rfl, rfl⟩

end Registry

/-- After any operations, names, slots and languages are in step. The names that are listed are in
strictly ascending order, and they are those of all languages that have been added. Adding a file
either adds the language that it defines, or fails and adds none. -/
theorem afterAll_isIndexed (ops : List Operation) :
    let r := Registry.afterAll ops
    r.IsIndexed ∧ r.languageNames.Pairwise (· < ·) ∧
    (∀ n, n ∈ r.languageNames ↔ ∃ op ∈ ops, ∃ l, op.language? = some l ∧ n = l.name) ∧
    ∀ f, (∃ l, (Operation.addFile f).language? = some l ∧ r.addFile f = .ok (r.addLanguage l)) ∨
      ((Operation.addFile f).language? = none ∧ (∃ e, r.addFile f = .error e) ∧
        r.after (.addFile f) = r) := by
  intro r
  have hr : r.Regular := Registry.regular_afterAll ops
  exact ⟨Registry.isIndexed hr, Registry.ascending_languageNames hr,
    fun n => Registry.mem_languageNames_afterAll ops, Registry.addFile_cases r⟩

end Highlight
