import Highlight.Registry.Bindings
import Mathlib.Data.List.Nodup

/-!
# `Highlight.Proofs.Registry.Bindings`: what is bound after a change

`Bindings.find?` after each of the operations on bindings, in terms of what was bound before:

* `find?_bind`, `find?_bindAll`: binding changes what the bound names stand for, and nothing else.
* `find?_unbindSlot`: unbinding a slot takes away the names that stand for it, and no others.

The second one needs that no name is listed twice (`Bindings.Distinct`). Otherwise an older entry
for the name could come to light. All operations keep that.
-/

set_option autoImplicit false

namespace Highlight.Bindings

variable {b : Bindings} {name other : String} {names : List String} {slot : Nat}

/-- No name is listed twice. So there is at most one entry for a name, and it is the one that a
look-up finds. -/
def Distinct (b : Bindings) : Prop := (b.entries.map (·.1)).Nodup

/-- Where nothing is listed, nothing is listed twice. -/
theorem distinct_empty : empty.Distinct := List.nodup_nil

/-- Binding a name takes its old entry away before it is listed again. -/
theorem distinct_bind (h : b.Distinct) : (b.bind name slot).Distinct := by
  refine List.nodup_cons.mpr ⟨?_, h.sublist (List.filter_sublist.map _)⟩
  intro hmem
  obtain ⟨e, he, hname⟩ := List.mem_map.mp hmem
  have hne := (List.mem_filter.mp he).2
  simp [hname] at hne

/-- Names are bound one after another, and a name may be among them twice. -/
theorem distinct_bindAll (h : b.Distinct) : (b.bindAll names slot).Distinct := by
  unfold bindAll
  induction names generalizing b with
  | nil => exact h
  | cons name names ih => exact ih (distinct_bind h)

/-- Taking entries away lists nothing twice. -/
theorem distinct_unbindSlot (h : b.Distinct) : (b.unbindSlot slot).Distinct :=
  h.sublist (List.filter_sublist.map _)

/-- Leaving out the entries of one key does not change what other keys stand for. -/
theorem lookup_filter_ne {α β : Type} [BEq α] [LawfulBEq α] {entries : List (α × β)}
    {key other : α} (h : other ≠ key) :
    (entries.filter fun e => e.1 != key).lookup other = entries.lookup other := by
  induction entries with
  | nil => rfl
  | cons e entries ih =>
      by_cases he : e.1 = key
      · have hne : (other == e.1) = false := by simpa [he] using h
        rw [List.filter_cons_of_neg (by simp [he]), ih, List.lookup_cons, hne]
      · rw [List.filter_cons_of_pos (by simp [he]), List.lookup_cons, List.lookup_cons, ih]

/-- The key whose entries are left out stands for nothing. It is used for names, and for the slots
of patterns too. -/
theorem lookup_filter_self {α β : Type} [BEq α] [LawfulBEq α] (entries : List (α × β)) (key : α) :
    (entries.filter fun e => e.1 != key).lookup key = none := by
  refine List.lookup_eq_none_iff.mpr fun e he => ?_
  have hne : e.1 ≠ key := by simpa using (List.mem_filter.mp he).2
  simpa using Ne.symm hne

/-- A name that has been bound stands for its slot. What other names stand for does not change,
since only entries of this name are taken away. -/
theorem find?_bind :
    (b.bind name slot).find? other = if other = name then some slot else b.find? other := by
  unfold find? bind
  rw [List.lookup_cons]
  by_cases h : other = name
  · simp [h]
  · have hne : (other == name) = false := by simpa using h
    rw [hne, if_neg h, lookup_filter_ne h]

/-- After several names have been bound, each of them stands for the slot, and all others for what
they did before. -/
theorem find?_bindAll :
    (b.bindAll names slot).find? other
      = if other ∈ names then some slot else b.find? other := by
  unfold bindAll
  induction names generalizing b with
  | nil => simp
  | cons name names ih =>
      rw [List.foldl_cons, ih, find?_bind]
      by_cases hrest : other ∈ names
      · simp [hrest]
      · by_cases hname : other = name <;> simp [hrest, hname]

/-- A key that is not listed stands for nothing. -/
theorem lookup_eq_none_of_not_mem {α β : Type} [BEq α] [LawfulBEq α] {entries : List (α × β)}
    {key : α} (h : key ∉ entries.map (·.1)) : entries.lookup key = none := by
  refine List.lookup_eq_none_iff.mpr fun e he => ?_
  have hne : key ≠ e.1 := fun heq => h (heq ▸ List.mem_map_of_mem he)
  simpa using hne

/-- Leaving out the entries of a key leaves out one of them, if there is one. The list must not have
a key twice, or it would leave out more. -/
theorem length_filter_ne {α β : Type} [BEq α] [LawfulBEq α] {entries : List (α × β)}
    (h : (entries.map (·.1)).Nodup) (key : α) : (entries.filter fun e => e.1 != key).length
      + (if (entries.lookup key).isSome then 1 else 0) = entries.length := by
  induction entries with
  | nil => rfl
  | cons e entries ih =>
      obtain ⟨hnot, hrest⟩ := List.nodup_cons.mp h
      have ih := ih hrest
      rw [List.lookup_cons]
      by_cases he : e.1 = key
      · -- No other entry has this key.
        subst he
        rw [lookup_eq_none_of_not_mem hnot] at ih
        rw [List.filter_cons_of_neg (by simp)]
        simpa using ih
      · have hne : (key == e.1) = false := by simpa using Ne.symm he
        rw [List.filter_cons_of_pos (by simp [he]), hne, List.length_cons, List.length_cons]
        dsimp only
        omega

/-- Unbinding a slot takes away the names that stand for it, and no others. A second entry for such
a name would come to light, which is why no name may be listed twice. -/
theorem find?_unbindSlot (h : b.Distinct) :
    (b.unbindSlot slot).find? name
      = if b.find? name = some slot then none else b.find? name := by
  obtain ⟨entries⟩ := b
  unfold find? unbindSlot
  -- By induction on the entries, the first of which stays or goes.
  induction entries with
  | nil => rfl
  | cons e entries ih =>
      obtain ⟨hnot, hrest⟩ := List.nodup_cons.mp h
      have ih := ih hrest
      dsimp only at ih hnot ⊢
      rw [List.lookup_cons]
      by_cases hname : name = e.1
      · -- The rest has no entry for the name, so it does not matter whether this one stays.
        subst hname
        rw [lookup_eq_none_of_not_mem hnot] at ih
        by_cases hslot : e.2 = slot
        · rw [List.filter_cons_of_neg (by simp [hslot]), ih]
          simp [hslot]
        · rw [List.filter_cons_of_pos (by simp [hslot]), List.lookup_cons]
          simp [hslot]
      · have hne : (name == e.1) = false := by simpa using hname
        rw [hne]
        dsimp only
        rw [← ih]
        by_cases hslot : e.2 = slot
        · rw [List.filter_cons_of_neg (by simp [hslot])]
        · rw [List.filter_cons_of_pos (by simp [hslot]), List.lookup_cons, hne]

end Highlight.Bindings
