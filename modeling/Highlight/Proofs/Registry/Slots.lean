import Highlight.Proofs.Registry.Names

/-!
# `Highlight.Proofs.Registry.Slots`: what is in a slot

A language keeps its slot until another one with the same name takes its place. An operation that
adds a language puts it into one slot (`Registry.Fills`), and no operation changes what is in any
other slot: `languageAt?_after`.

`find?_fileTypes_addLanguage` is for file name extensions what `find?_addLanguage` is for names.
-/

set_option autoImplicit false

namespace Highlight.Registry

variable {r : Registry} {op : Operation} {l : Language} {slot : Nat}

/-- An operation puts a language into a slot, which is new or gets it in place of another one. -/
def Fills (r : Registry) (slot : Nat) (op : Operation) : Prop :=
  ∃ l, op.language? = some l ∧ r.slotFor l = slot

/-- An operation with a language fills the slot that the language takes, and no other. -/
theorem fills_iff (hl : op.language? = some l) : r.Fills slot op ↔ r.slotFor l = slot := by
  constructor
  · rintro ⟨l', hl', hslot⟩
    obtain rfl : l = l' := Option.some.inj (hl.symm.trans hl')
    exact hslot
  · exact fun hslot => ⟨l, hl, hslot⟩

/-- An operation without a language fills no slot. -/
theorem not_fills (hnone : op.language? = none) : ¬ r.Fills slot op := by
  rintro ⟨l, hl, _⟩
  rw [hnone] at hl
  cases hl

/-- An operation with a language adds it, however it has come by it. It may be given, read from a
file, or be the plain one. -/
theorem after_of_language? (h : r.Consistent) (hl : op.language? = some l) :
    r.after op = r.addLanguage l := by
  rcases after_cases h op with ⟨l', hl', hafter⟩ | ⟨name, other, rfl, _⟩ | ⟨hnone, _⟩
  · obtain rfl : l = l' := Option.some.inj (hl.symm.trans hl')
    exact hafter
  · cases hl
  · rw [hnone] at hl
    cases hl

/-- The slot of a name is one of those in use. -/
theorem lt_of_slotOf? {name : String} (h : r.slotOf? name = some slot) :
    slot < r.languages.length :=
  (List.findIdx?_eq_some_iff_getElem.mp h).1

/-- A language takes the slot of the language with its name. -/
theorem slotFor_of_slotOf? (h : r.slotOf? l.name = some slot) : r.slotFor l = slot := by
  rw [slotFor, h]
  rfl

/-! ### Languages -/

/-- A language that has been added is in the slot that it takes. All other slots hold what they
held. -/
theorem languageAt?_addLanguage (l : Language) (slot : Nat) :
    (r.addLanguage l).languageAt? slot
      = if slot = r.slotFor l then some l else r.languageAt? slot := by
  unfold addLanguage slotFor
  cases hslot : r.slotOf? l.name with
  | some taken =>
      -- The language is put in the place of another.
      show (r.languages.set taken l)[slot]? = if slot = taken then some l else r.languages[slot]?
      rw [List.getElem?_set]
      have hlt := lt_of_slotOf? hslot
      by_cases h : slot = taken
      · subst h
        simp [hlt]
      · rw [if_neg (Ne.symm h), if_neg h]
  | none =>
      -- It gets the first slot that is free.
      show (r.languages ++ [l])[slot]?
        = if slot = r.languages.length then some l else r.languages[slot]?
      by_cases h : slot = r.languages.length
      · subst h
        simp
      · rw [if_neg h, List.getElem?_append]
        split
        · rfl
        · rw [List.getElem?_eq_none (by simp; omega), List.getElem?_eq_none (by omega)]

/-- Only the slot that an operation fills holds another language after it. There is a case for
languages, and the other operations leave all slots as they are. -/
theorem languageAt?_after (h : r.Consistent) (op : Operation) (slot : Nat) :
    (∃ l, op.language? = some l ∧ r.slotFor l = slot ∧
      (r.after op).languageAt? slot = some l) ∨
    (¬ r.Fills slot op ∧ (r.after op).languageAt? slot = r.languageAt? slot) := by
  rcases after_cases h op with ⟨l, hl, hafter⟩ | ⟨name, other, rfl, hafter⟩ | ⟨hnone, _, hsame⟩
  · rw [hafter, languageAt?_addLanguage]
    by_cases hslot : slot = r.slotFor l
    · exact Or.inl ⟨l, hl, hslot.symm, if_pos hslot⟩
    · exact Or.inr ⟨fun hfills => hslot ((fills_iff hl).mp hfills).symm, if_neg hslot⟩
  · refine Or.inr ⟨not_fills rfl, ?_⟩
    rw [hafter, languageAt?, languageAt?, addAlias]
    split <;> rfl
  · refine Or.inr ⟨not_fills hnone, ?_⟩
    rw [languageAt?, languageAt?, hsame.languages]

/-! ### File name extensions -/

/-- A language binds its extensions. Of the others, those go that stand for the language that it
replaces. -/
theorem find?_fileTypes_addLanguage (h : r.fileTypes.Distinct) (l : Language) (key : String) :
    (r.addLanguage l).fileTypes.find? key
      = if key ∈ l.fileTypes.map Unicode.lowercase then some (r.slotFor l)
        else if r.fileTypes.find? key = r.slotOf? l.name then none
        else r.fileTypes.find? key := by
  unfold addLanguage slotFor
  cases hslot : r.slotOf? l.name with
  | some slot =>
      show ((r.fileTypes.unbindSlot slot).bindAll _ slot).find? key = _
      rw [Bindings.find?_bindAll, Bindings.find?_unbindSlot h]
      rfl
  | none =>
      show (r.fileTypes.bindAll _ r.languages.length).find? key = _
      rw [Bindings.find?_bindAll]
      cases r.fileTypes.find? key <;> simp

/-- No operation lists an extension twice, even if a language declares it in several spellings.
Extensions are bound in lower case, one after another. -/
theorem distinct_fileTypes_after (hr : r.Consistent) (h : r.fileTypes.Distinct)
    (op : Operation) : (r.after op).fileTypes.Distinct := by
  rcases after_cases hr op with ⟨l, _, hafter⟩ | ⟨name, other, _, hafter⟩ | ⟨_, _, hsame⟩
  · rw [hafter, addLanguage]
    split
    · exact Bindings.distinct_bindAll (Bindings.distinct_unbindSlot h)
    · exact Bindings.distinct_bindAll h
  · rw [hafter, addAlias]
    split <;> exact h
  · rw [hsame.fileTypes]
    exact h

/-- After any operations no extension is listed twice. -/
theorem distinct_fileTypes_afterAll (ops : List Operation) :
    (afterAll ops).fileTypes.Distinct := by
  induction ops using List.reverseRecOn with
  | nil => exact Bindings.distinct_empty
  | append_singleton ops op ih =>
      rw [afterAll_concat]
      exact distinct_fileTypes_after (consistent_afterAll ops) ih op

end Highlight.Registry
