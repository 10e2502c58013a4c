import Highlight.LengthUnit

/-!
# `Highlight.Proofs.LengthUnit`: measuring a text and the way back

`LengthUnit.measure` is a fold and `LengthUnit.reach` a loop with a counter. The lemmas below
restate both by recursion on the text.

* `measure_append`: the measure of two texts one after the other is the sum of their measures.
* `measure_pos`: only the empty text measures nothing, since every character has a width.
* `reach_measure_take`: measuring a beginning of a text and going back over the text gives the
  number of characters of that beginning. Every cut of a text along spans rests on it.
* `reach_le_iff`: the way back ends at the first place where the beginning of the text measures
  the length, or as much as the text does. So it rounds a length that ends inside a character up.
* `measure_le_utf8ByteSize`: no unit counts more than the bytes of the UTF-8 form, so a text
  that fits into the memory of the program has a measure that does.
-/

set_option autoImplicit false

namespace Highlight.LengthUnit

variable (u : LengthUnit)

/-- Every character has a width in every unit. So a length that is not made up yet takes another
character, and no two positions have the same measure. -/
theorem width_pos (c : Char) : 0 < u.width c := by
  cases u with
  | chars => exact Nat.one_pos
  | bytes => exact c.utf8Size_pos
  | utf16 =>
      show 0 < if c.toNat < 0x10000 then 1 else 2
      split <;> omega

/-! ### The measure by recursion -/

/-- The empty text measures nothing. -/
@[simp] theorem measure_nil : u.measure [] = 0 := rfl

/-- The fold of the measure with what has been counted before. The measure is a fold from the front,
so the induction has to be about any number to begin with. -/
private theorem foldl_width (n : Nat) (cs : List Char) :
    cs.foldl (fun n c => n + u.width c) n = n + u.measure cs := by
  unfold measure
  induction cs generalizing n with
  | nil => rfl
  | cons c cs ih =>
      rw [List.foldl_cons, List.foldl_cons, ih (n + u.width c), ih (0 + u.width c)]
      omega

/-- The first character adds its width to the measure of the others. -/
@[simp] theorem measure_cons (c : Char) (cs : List Char) :
    u.measure (c :: cs) = u.width c + u.measure cs := by
  show cs.foldl (fun n c => n + u.width c) (0 + u.width c) = _
  rw [foldl_width, Nat.zero_add]

/-- Measures add up: the measure of two texts one after the other is the sum of theirs. -/
@[simp] theorem measure_append (cs ds : List Char) :
    u.measure (cs ++ ds) = u.measure cs + u.measure ds := by
  induction cs with
  | nil => simp
  | cons c cs ih =>
      rw [List.cons_append, measure_cons, measure_cons, ih, Nat.add_assoc]

/-- Only the empty text measures nothing. Here it is stated for texts that are not empty. -/
theorem measure_pos {cs : List Char} (h : cs ≠ []) : 0 < u.measure cs := by
  cases cs with
  | nil => exact absurd rfl h
  | cons c cs =>
      rw [measure_cons]
      exact Nat.lt_of_lt_of_le (u.width_pos c) (Nat.le_add_right _ _)

/-- A text measures nothing if and only if it is empty, in every unit. -/
theorem measure_eq_zero {cs : List Char} : u.measure cs = 0 ↔ cs = [] := by
  cases cs with
  | nil => simp
  | cons c cs =>
      have hpos := u.measure_pos (List.cons_ne_nil c cs)
      exact ⟨fun h => by omega, fun h => absurd h (List.cons_ne_nil c cs)⟩

/-! ### The way back by recursion -/

/-- The counter of the loop only adds to the result. With it the way back can be taken apart at the
first character. -/
theorem reachFrom_eq (n len : Nat) (cs : List Char) :
    u.reachFrom n len cs = n + u.reach len cs := by
  unfold reach
  induction cs generalizing n len with
  | nil => cases len <;> rfl
  | cons c cs ih =>
      cases len with
      | zero => rfl
      | succ len =>
          show u.reachFrom (n + 1) _ cs = n + u.reachFrom (0 + 1) _ cs
          rw [ih (n + 1), ih (0 + 1)]
          omega

/-- No length is made up by no characters. -/
@[simp] theorem reach_zero (cs : List Char) : u.reach 0 cs = 0 := by
  cases cs <;> rfl

/-- In the empty text the way back ends at once, even if the length is not made up. -/
@[simp] theorem reach_nil (len : Nat) : u.reach len [] = 0 := by
  cases len <;> rfl

/-- Making up a length takes a character, and then what is left of the length. If the character is
wider than the length, nothing is left. -/
theorem reach_cons {len : Nat} (h : 0 < len) (c : Char) (cs : List Char) :
    u.reach len (c :: cs) = 1 + u.reach (len - u.width c) cs := by
  cases len with
  | zero => exact absurd h (Nat.lt_irrefl 0)
  | succ len =>
      show u.reachFrom (0 + 1) (len + 1 - u.width c) cs = _
      rw [reachFrom_eq, Nat.zero_add]

/-- The way back is the least number of characters that measure a length, or as much as the text
does if the length is longer. All other facts about it follow from this one. -/
theorem reach_le_iff (len n : Nat) (cs : List Char) :
    u.reach len cs ≤ n ↔ min len (u.measure cs) ≤ u.measure (cs.take n) := by
  -- The induction is on the text, and takes a character from the length and one from the number.
  induction cs generalizing len n with
  | nil => simp
  | cons c cs ih =>
      have hpos := u.width_pos c
      cases len with
      | zero => simp
      | succ len =>
          have hlen : 0 < len + 1 := Nat.succ_pos len
          rw [u.reach_cons hlen c cs]
          cases n with
          | zero =>
              rw [List.take_zero, measure_cons, measure_nil]
              omega
          | succ n =>
              have hrest := ih (len + 1 - u.width c) n
              rw [List.take_succ_cons, measure_cons, measure_cons]
              omega

/-- What the way back covers measures the length, or as much as the text does. It may measure more,
if the length ends inside a character. -/
theorem le_measure_take_reach (len : Nat) (cs : List Char) :
    min len (u.measure cs) ≤ u.measure (cs.take (u.reach len cs)) :=
  (u.reach_le_iff len (u.reach len cs) cs).mp (Nat.le_refl _)

/-- The way back from a length that the text does not exceed goes to the end of the text. What is
passed measures as much as the text, and every character measures something. -/
theorem take_reach_of_measure_le {len : Nat} {cs : List Char} (h : u.measure cs ≤ len) :
    cs.take (u.reach len cs) = cs := by
  have htake := u.le_measure_take_reach len cs
  rw [Nat.min_eq_right h] at htake
  have hsplit := List.take_append_drop (u.reach len cs) cs
  have hsum := u.measure_append (cs.take (u.reach len cs)) (cs.drop (u.reach len cs))
  rw [hsplit] at hsum
  -- What is left of the text measures nothing, so it is empty.
  have hdrop : cs.drop (u.reach len cs) = [] := by
    rw [← u.measure_eq_zero]
    omega
  rwa [hdrop, List.append_nil] at hsplit

/-- The way back undoes measuring a beginning of the text. A length that was measured ends between
two characters, and there is nothing to round. -/
theorem reach_measure_take (n : Nat) (cs : List Char) (h : n ≤ cs.length) :
    u.reach (u.measure (cs.take n)) cs = n := by
  induction cs generalizing n with
  | nil =>
      rw [List.take_nil, measure_nil, reach_zero]
      exact (Nat.le_zero.mp h).symm
  | cons c cs ih =>
      cases n with
      | zero => simp
      | succ n =>
          have hn : n ≤ cs.length := Nat.le_of_succ_le_succ h
          have hpos := u.width_pos c
          rw [List.take_succ_cons, measure_cons, u.reach_cons (by omega) c cs,
            Nat.add_sub_cancel_left, ih n hn, Nat.add_comm]

/-- The form of `reach_measure_take` for a text given in two parts. -/
theorem reach_measure_append (cs ds : List Char) :
    u.reach (u.measure cs) (cs ++ ds) = cs.length := by
  have h := u.reach_measure_take cs.length (cs ++ ds) (by simp)
  rwa [List.take_left] at h

/-! ### Measures and bytes -/

/-- No unit counts a character more than its bytes. A character with a surrogate pair has four
bytes. -/
theorem width_le_utf8Size (c : Char) : u.width c ≤ c.utf8Size := by
  have hpos := c.utf8Size_pos
  cases u with
  | chars => exact hpos
  | bytes => exact Nat.le_refl _
  | utf16 =>
      show (if c.toNat < 0x10000 then 1 else 2) ≤ c.utf8Size
      split
      · exact hpos
      · rename_i h
        -- The sizes change at the code points where the ranges of the encoding do.
        have hc : c.utf8Size = 4 := by
          have h3 : ¬ c.val ≤ 0xFFFF := fun hle => h (by
            have := UInt32.le_iff_toNat_le.mp hle
            exact Nat.lt_succ_of_le this)
          have h2 : ¬ c.val ≤ 0x7FF := fun hle => h3 (UInt32.le_trans hle (by decide))
          have h1 : ¬ c.val ≤ 0x7F := fun hle => h3 (UInt32.le_trans hle (by decide))
          simp [Char.utf8Size, h1, h2, h3]
        omega

/-- No unit counts a text more than its bytes. -/
theorem measure_le_measure_bytes (cs : List Char) : u.measure cs ≤ bytes.measure cs := by
  induction cs with
  | nil => exact Nat.le_refl _
  | cons c cs ih =>
      rw [measure_cons, measure_cons]
      exact Nat.add_le_add (u.width_le_utf8Size c) ih

/-- Measuring in bytes gives the size of the UTF-8 form of the text. It is a sum over the characters
on both sides. -/
theorem measure_bytes_eq_utf8ByteSize (cs : List Char) :
    bytes.measure cs = (String.ofList cs).utf8ByteSize := by
  induction cs with
  | nil => rfl
  | cons c cs ih =>
      have hsplit : String.ofList (c :: cs) = String.singleton c ++ String.ofList cs := by
        rw [← String.toList_inj]
        simp
      rw [measure_cons, ih, hsplit, String.utf8ByteSize_append, String.utf8ByteSize_singleton]
      rfl

/-- No measure exceeds the size of the text in memory. So a bound on the memory is one on all
lengths. -/
theorem measure_le_utf8ByteSize (text : String) :
    u.measure text.toList ≤ text.utf8ByteSize := by
  have h := u.measure_le_measure_bytes text.toList
  rwa [measure_bytes_eq_utf8ByteSize, String.ofList_toList] at h

end Highlight.LengthUnit
