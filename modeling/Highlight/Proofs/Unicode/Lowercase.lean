import Highlight.Unicode.Lowercase

/-!
# `Highlight.Proofs.Unicode.Lowercase`: lower case and full stops

Full stops can be taken off the front of a text before it goes to lower case or afterwards:
`lowerFrom_dropWhile` says that this makes no difference. There are two reasons why it might.

* Another character could turn into a full stop, or into several characters with a full stop in
  front. `lowerChar_of_ne_dot` excludes this. Each row of the table of lower case leads beyond the
  full stop, so that the table is read once, row by row, and not once for each character.
* The lower case of a capital sigma depends on what stands before it. But full stops are passed
  over when the end of a word is looked for, so those in front of the text are not noticed
  (`meetsCased_append_dot`).
-/

set_option autoImplicit false

namespace Highlight.Unicode

/-! ### Characters -/

/-- A character that a table moves is moved by one of its rows. So a property of all rows is one of
everything that the table does. -/
theorem exists_of_shifted? {table : Array Shift} {c d : Nat} (h : shifted? table c = some d) :
    ∃ s ∈ table, s.image? c = some d := by
  unfold shifted? at h
  simp only at h
  split at h
  · cases h
  · obtain ⟨s, hs, hd⟩ := Option.bind_eq_some_iff.mp h
    exact ⟨s, Array.mem_of_getElem? hs, hd⟩

/-- A row does not lead to a number before its target. -/
theorem target_le_of_image? {s : Shift} {c d : Nat} (h : s.image? c = some d) : s.target ≤ d := by
  unfold Shift.image? at h
  split at h
  · cases h
    exact Nat.le_add_right _ _
  · cases h

/-- No row of the table of lower case leads to a full stop. The table is gone through once, row by
row. -/
theorem dot_lt_target : ∀ s ∈ CaseMap.lowers, '.'.toNat < s.target := by
  decide +kernel

/-- Among the first characters, which have no table, none has a full stop for its lower case. -/
theorem toLower_ne_dot : ∀ n < 0x80, n ≠ '.'.toNat → (Char.ofNat n).toLower ≠ '.' := by
  decide +kernel

/-- A full stop is its own lower case. -/
theorem lowerChar_dot : lowerChar '.' = ['.'] := by decide

/-- Only the full stop has a lower case that begins with a full stop. There is a case for each way
in which a character gets its lower case. -/
theorem lowerChar_of_ne_dot {c : Char} (h : c ≠ '.') :
    ∃ d ds, lowerChar c = d :: ds ∧ d ≠ '.' := by
  unfold lowerChar
  split
  · rename_i hascii
    have hne := toLower_ne_dot c.toNat hascii fun hdot => h (Char.toNat_inj.mp hdot)
    rw [Char.ofNat_toNat] at hne
    exact ⟨_, _, rfl, hne⟩
  · split
    · exact ⟨_, _, rfl, by decide⟩
    · split
      · rename_i d hd
        obtain ⟨s, hs, himage⟩ := exists_of_shifted? hd
        have hlt := Nat.lt_of_lt_of_le (dot_lt_target s hs) (target_le_of_image? himage)
        refine ⟨_, _, rfl, fun hdot => ?_⟩
        -- A number that is no code point stands for the null character.
        have hnumber := congrArg Char.toNat hdot
        by_cases hvalid : d.isValidChar
        · rw [Char.ofNat, dif_pos hvalid] at hnumber
          exact Nat.ne_of_gt hlt hnumber
        · rw [Char.ofNat, dif_neg hvalid] at hnumber
          cases hnumber
      · exact ⟨c, [], rfl, h⟩

/-! ### Texts -/

/-- Punctuation that case ignores is ignored whatever its category is. So the category of a full
stop need not be looked up. -/
theorem isCaseIgnorable_of_inRanges {c : Nat} (h : inRanges Ranges.caseIgnorableOthers c = true) :
    isCaseIgnorable c = true := by
  unfold isCaseIgnorable
  split
  · rfl
  · rfl
  · rfl
  · rfl
  · rfl
  · exact h

/-- A full stop is ignored when the end of a word is looked for. -/
theorem isCaseIgnorable_dot : isCaseIgnorable '.'.toNat = true :=
  isCaseIgnorable_of_inRanges (by decide +kernel)

/-- A full stop at the start of the text makes no difference to how words end. What has been read is
kept in reverse, so it stands last here. -/
theorem meetsCased_append_dot (cs : List Char) : meetsCased (cs ++ ['.']) = meetsCased cs := by
  have hdot : ['.'].dropWhile (fun c => isCaseIgnorable c.toNat) = [] := by
    rw [List.dropWhile_cons, if_pos isCaseIgnorable_dot, List.dropWhile_nil]
  unfold meetsCased
  rw [List.dropWhile_append, hdot]
  cases cs.dropWhile fun c => isCaseIgnorable c.toNat with
  | nil => rfl
  | cons c cs => rfl

/-- Nor does it make one to the lower case of what comes after it. -/
theorem lowerFrom_append_dot (before cs : List Char) :
    lowerFrom (before ++ ['.']) cs = lowerFrom before cs := by
  induction cs generalizing before with
  | nil => rfl
  | cons c cs ih => rw [lowerFrom, lowerFrom, meetsCased_append_dot, ← List.cons_append, ih]

/-- A full stop stays where it is. -/
theorem lowerFrom_dot (before cs : List Char) :
    lowerFrom before ('.' :: cs) = '.' :: lowerFrom ('.' :: before) cs := by
  rw [lowerFrom, lowerChar_dot]
  rfl

/-- A text that does not begin with a full stop does not do so in lower case. No character but the
full stop itself becomes one. -/
theorem lowerFrom_of_ne_dot {c : Char} (h : c ≠ '.') (before cs : List Char) :
    ∃ d ds, lowerFrom before (c :: cs) = d :: ds ∧ d ≠ '.' := by
  rw [lowerFrom]
  split
  · split
    · exact ⟨_, _, rfl, by decide⟩
    · exact ⟨_, _, rfl, by decide⟩
  · obtain ⟨d, ds, hlower, hne⟩ := lowerChar_of_ne_dot h
    rw [hlower]
    exact ⟨d, _, rfl, hne⟩

/-- It makes no difference whether the full stops in front are taken off before or after the text
goes to lower case. -/
theorem lowerFrom_dropWhile (cs : List Char) :
    lowerFrom [] (cs.dropWhile (· == '.')) = (lowerFrom [] cs).dropWhile (· == '.') := by
  induction cs with
  | nil => rfl
  | cons c cs ih =>
      by_cases h : c = '.'
      · subst h
        have hdot := lowerFrom_append_dot [] cs
        rw [lowerFrom_dot, List.dropWhile_cons_of_pos rfl, List.dropWhile_cons_of_pos rfl, ih,
          ← hdot]
        rfl
      · obtain ⟨d, ds, hlower, hne⟩ := lowerFrom_of_ne_dot h [] cs
        rw [List.dropWhile_cons_of_neg (by simpa using h), hlower,
          List.dropWhile_cons_of_neg (by simpa using hne)]

end Highlight.Unicode
