import Highlight.LengthUnit.Offset
import Highlight.Proofs.LengthUnit

/-!
# `Highlight.Proofs.LengthUnit.Offset`: the byte where a length ends

Each unit has its own search for the byte where a length ends. `byteOffset_eq` says that all of
them come to an end, and find the byte after the characters that `LengthUnit.reach` counts. What is
known of the way back from a length then holds of the bytes as well. `exists_byteOffset` is the main
statement, and `LengthUnit.IsInverse` what it says of the place where a length ends.

* It is a position of the text, so no character is split.
* It is the first position such that the text before it measures the length, or as much as the
  text does.
* The measure of what is before a position leads back to the position.
* It does not move back if the length grows, and stays at the end of the text from the measure of
  the text on.
-/

set_option autoImplicit false

namespace Highlight.LengthUnit

/-! ### The searches -/

/-- A character is found by its number where the characters before it end. Beyond the last character
the end of the text is found. -/
theorem elim_charStarts (start n : Nat) (cs : List Char) :
    ((charStarts start cs)[n]?).elim (start + bytes.measure cs) (·.1)
      = start + bytes.measure (cs.take n) := by
  induction cs generalizing start n with
  | nil => simp [charStarts]
  | cons c cs ih =>
      cases n with
      | zero => simp [charStarts]
      | succ n =>
          have hrest := ih (start + c.utf8Size) n
          simp only [charStarts, List.getElem?_cons_succ, List.take_succ_cons, measure_cons,
            width, ← Nat.add_assoc]
          exact hrest

/-- In characters, a length is a number of characters. So the way back is that number, or the number
of characters that there are. -/
theorem take_reach_chars (n : Nat) (cs : List Char) : cs.take (chars.reach n cs) = cs.take n := by
  induction cs generalizing n with
  | nil => simp
  | cons c cs ih =>
      cases n with
      | zero => simp
      | succ n =>
          rw [chars.reach_cons (Nat.succ_pos n), Nat.add_comm, List.take_succ_cons,
            List.take_succ_cons]
          exact congrArg _ (ih n)

/-- The code units are made up where the way back ends. The search compares the units that it has
passed with the length, and the way back takes them from it. -/
theorem passUnits_eq (len units start : Nat) (cs : List Char) :
    passUnits len (start + bytes.measure cs) units (charStarts start cs)
      = start + bytes.measure (cs.take (utf16.reach (len - units) cs)) := by
  induction cs generalizing units start with
  | nil => simp [charStarts, passUnits]
  | cons c cs ih =>
      rw [charStarts, passUnits]
      split
      · rename_i hle
        rw [Nat.sub_eq_zero_of_le hle]
        simp
      · -- One character is passed, with its bytes and its units.
        rename_i hlt
        have hrest := ih (units + utf16.width c) (start + c.utf8Size)
        rw [utf16.reach_cons (by omega), Nat.add_comm 1, List.take_succ_cons, measure_cons,
          measure_cons, ← Nat.add_assoc, ← Nat.add_assoc, Nat.sub_sub]
        exact hrest

/-- Each turn of the search only tests for a boundary. That it has passed the end need not be told,
since no later turn finds one. -/
theorem nextBoundary_turn (text : String) (start : Nat) :
    nextBoundary text start = if String.Pos.Raw.isValid text ⟨start⟩ then some start
      else nextBoundary text (start + 1) := by
  rw [nextBoundary]
  split
  · rename_i hpast
    have hnot : ¬ String.Pos.Raw.isValid text ⟨start⟩ = true := by
      intro hvalid
      have hwithin : start ≤ text.utf8ByteSize :=
        (String.Pos.Raw.isValid_eq_true_iff.mp hvalid).le_utf8ByteSize
      omega
    rw [if_neg hnot, nextBoundary, if_pos (Nat.lt_succ_of_lt hpast)]
  · rfl

/-- The search for a boundary ends at the first one from its start on. There is one within the text,
since the end of the text is a boundary. -/
theorem nextBoundary_eq_some {text : String} {start b : Nat} (hle : start ≤ b)
    (hb : String.Pos.Raw.IsValid text ⟨b⟩)
    (hfirst : ∀ j, start ≤ j → j < b → ¬ String.Pos.Raw.IsValid text ⟨j⟩) :
    nextBoundary text start = some b := by
  obtain ⟨n, rfl⟩ := Nat.exists_eq_add_of_le hle
  -- By induction on the number of turns, each of which starts one byte later.
  induction n generalizing start with
  | zero =>
      rw [Nat.add_zero] at hb ⊢
      rw [nextBoundary_turn, if_pos (String.Pos.Raw.isValid_eq_true_iff.mpr hb)]
  | succ n ih =>
      have hnot : ¬ String.Pos.Raw.isValid text ⟨start⟩ = true := by
        rw [String.Pos.Raw.isValid_eq_true_iff]
        exact hfirst start (Nat.le_refl _) (by omega)
      rw [nextBoundary_turn, if_neg hnot]
      have hsum : start + 1 + n = start + (n + 1) := by omega
      rw [← hsum] at hb hfirst ⊢
      exact ih (by omega) hb fun j hj => hfirst j (by omega)

/-! ### Positions -/

section

variable {text : String}

/-- The characters before a position of a text. -/
def before (p : text.Pos) : List Char := (text.sliceTo p).copy.toList

/-- The characters from a position of a text on. -/
def after (p : text.Pos) : List Char := (text.sliceFrom p).copy.toList

/-- A position cuts the text in two, and nothing is lost. -/
theorem before_append_after (p : text.Pos) : before p ++ after p = text.toList := by
  rw [before, after, ← String.toList_append, ← p.splits.eq_append]

/-- A position is the number of bytes before it, which is a measure of the characters before it. -/
theorem byteIdx_eq (p : text.Pos) : p.offset.byteIdx = bytes.measure (before p) := by
  rw [p.splits.offset_eq_rawEndPos, measure_bytes_eq_utf8ByteSize, before, String.ofList_toList]
  rfl

/-- A position is known by the characters before it. -/
theorem before_inj {p q : text.Pos} : before p = before q ↔ p = q := by
  constructor
  · intro h
    refine String.Pos.ext (String.Pos.Raw.ext ?_)
    rw [byteIdx_eq, byteIdx_eq, h]
  · rintro rfl
    rfl

/-- What is before a position is a beginning of the text, and known by its length. -/
theorem before_eq_take (p : text.Pos) : before p = text.toList.take (before p).length := by
  rw [← before_append_after p, List.take_left]

/-- No position has more characters before it than the text has. -/
theorem length_before_le (p : text.Pos) : (before p).length ≤ text.toList.length := by
  rw [← before_append_after p, List.length_append]
  exact Nat.le_add_right _ _

/-- The whole text is before its end. -/
theorem before_endPos : before text.endPos = text.toList := by
  rw [before, text.endPos.splits.eq_left text.splits_endPos]

/-- The position after a number of characters, or the end if the text has fewer. -/
def positionAfter (text : String) (n : Nat) : text.Pos :=
  text.pos (String.ofList (text.toList.take n)).rawEndPos
    (String.Pos.Raw.isValid_iff_exists_append.mpr
      ⟨_, String.ofList (text.toList.drop n), by simp [← String.ofList_append], rfl⟩)

/-- Before that position there are these characters. -/
theorem before_positionAfter (n : Nat) : before (positionAfter text n) = text.toList.take n := by
  have hsplits : (positionAfter text n).Splits (String.ofList (text.toList.take n))
      (String.ofList (text.toList.drop n)) :=
    ⟨by simp [← String.ofList_append], rfl⟩
  rw [before, (positionAfter text n).splits.eq_left hsplits, String.toList_ofList]

/-- Of two beginnings of a text, the shorter one measures less. It holds in every unit, since every
character has a width. -/
theorem measure_take_le_iff (u : LengthUnit) {cs : List Char} {m n : Nat} (hm : m ≤ cs.length) :
    u.measure (cs.take m) ≤ u.measure (cs.take n) ↔ m ≤ n := by
  have hwhole : u.measure (cs.take m) ≤ u.measure cs := by
    have hsum := u.measure_append (cs.take m) (cs.drop m)
    rw [List.take_append_drop] at hsum
    omega
  have hreach := u.reach_le_iff (u.measure (cs.take m)) n cs
  rw [u.reach_measure_take m cs hm, Nat.min_eq_left hwhole] at hreach
  exact hreach.symm

/-- Of two positions, the first one has fewer characters before it. Positions are compared by bytes,
and this turns bytes into characters. -/
theorem le_iff_length {p q : text.Pos} : p ≤ q ↔ (before p).length ≤ (before q).length := by
  show p.offset.byteIdx ≤ q.offset.byteIdx ↔ _
  rw [byteIdx_eq, byteIdx_eq, before_eq_take p, before_eq_take q,
    measure_take_le_iff bytes (length_before_le p), ← before_eq_take, ← before_eq_take]

end

/-! ### Lengths and positions -/

section

variable (u : LengthUnit) (text : String)

/-- The position where a length ends, by the way back of its unit. -/
def positionOf (len : Nat) : text.Pos := positionAfter text (u.reach len text.toList)

/-- Before that position there are the characters that the way back counts. -/
theorem before_positionOf (len : Nat) :
    before (u.positionOf text len) = text.toList.take (u.reach len text.toList) :=
  before_positionAfter _

/-- A length ends at a position or before it if what is before the position measures the length, or
as much as the text does. So it ends at the first such position. -/
theorem positionOf_le_iff (len : Nat) (p : text.Pos) :
    u.positionOf text len ≤ p ↔ min len (u.measure text.toList) ≤ u.measure (before p) := by
  have hreach : u.reach len text.toList ≤ text.toList.length := by
    rw [u.reach_le_iff, List.take_length]
    exact Nat.min_le_right _ _
  rw [le_iff_length, before_positionOf, List.length_take, Nat.min_eq_left hreach, u.reach_le_iff,
    ← before_eq_take]

/-- The measure of a text in bytes is its size. -/
theorem measure_bytes_toList : bytes.measure text.toList = text.utf8ByteSize := by
  rw [measure_bytes_eq_utf8ByteSize, String.ofList_toList]

/-- Rounding up to a boundary ends where the length in bytes does. Both are the first boundary that
is not before the length. -/
theorem nextBoundary_eq (len : Nat) :
    nextBoundary text (min len text.utf8ByteSize)
      = some (bytes.positionOf text len).offset.byteIdx := by
  rw [← measure_bytes_toList]
  refine nextBoundary_eq_some ?_ (bytes.positionOf text len).isValid fun j hj hlt hvalid => ?_
  · rw [byteIdx_eq, ← positionOf_le_iff]
    exact String.Pos.le_refl _
  · -- The length would end at such a boundary already.
    have hle : bytes.positionOf text len ≤ text.pos ⟨j⟩ hvalid := by
      rw [positionOf_le_iff, ← byteIdx_eq]
      exact hj
    exact absurd hlt (Nat.not_lt.mpr hle)

/-- The search of each unit ends where the length does, although no two of them look alike:
characters are looked up by their number, bytes are tried one after another, and code units are
added up. -/
theorem byteOffset_eq (len : Nat) :
    u.byteOffset text len = some (u.positionOf text len).offset.byteIdx := by
  have hsize : text.utf8ByteSize = 0 + bytes.measure text.toList := by
    rw [Nat.zero_add, measure_bytes_toList]
  cases u with
  | chars =>
      rw [byteOffset, hsize, elim_charStarts, byteIdx_eq, before_positionOf, take_reach_chars,
        Nat.zero_add]
  | bytes => exact nextBoundary_eq text len
  | utf16 =>
      rw [byteOffset, hsize, passUnits_eq, byteIdx_eq, before_positionOf, Nat.sub_zero,
        Nat.zero_add]

/-- What is promised of the places where lengths end in a text. -/
structure IsInverse (offset : Nat → text.Pos) : Prop where
  /-- What is before the place measures the length, or as much as the text does. -/
  reaches : ∀ len, min len (u.measure text.toList) ≤ u.measure (before (offset len))
  /-- There is no such place before it. -/
  least : ∀ len p, min len (u.measure text.toList) ≤ u.measure (before p) → offset len ≤ p
  /-- The measure of what is before a place leads back to it. -/
  measure : ∀ p, offset (u.measure (before p)) = p
  /-- A greater length does not end before a smaller one. -/
  monotone : ∀ len len', len ≤ len' → offset len ≤ offset len'
  /-- A length that the text does not exceed ends where the text does. -/
  clamped : ∀ len, u.measure text.toList ≤ len → offset len = text.endPos

/-- The positions where lengths end are what is promised of such places. All five properties come
from `positionOf_le_iff` and from the way back. -/
theorem positionOf_isInverse : u.IsInverse text (u.positionOf text) where
  reaches len := (u.positionOf_le_iff text len _).mp (String.Pos.le_refl _)
  least len p h := (u.positionOf_le_iff text len p).mpr h
  measure p := by
    have htake := before_eq_take p
    rw [← before_inj, before_positionOf]
    rw [htake, u.reach_measure_take _ _ (length_before_le p), ← htake]
  monotone len len' hle := by
    have hreaches := (u.positionOf_le_iff text len' _).mp (String.Pos.le_refl _)
    rw [positionOf_le_iff]
    omega
  clamped len hle := by
    rw [← before_inj, before_positionOf, u.take_reach_of_measure_le hle, before_endPos]

/-- In every unit, the search for the end of a length comes to an end, at a position of the text.
That is the first one such that what is before it measures the length, and where the text is cut
if it is cut along spans. At any position, the measure of a text is the sum of the measures of its
two parts. -/
theorem exists_byteOffset :
    (∃ offset : Nat → text.Pos,
      (∀ len, u.byteOffset text len = some (offset len).offset.byteIdx) ∧
      u.IsInverse text offset ∧
      ∀ len, before (offset len) = text.toList.take (u.reach len text.toList)) ∧
    ∀ p : text.Pos, u.measure text.toList = u.measure (before p) + u.measure (after p) := by
  refine ⟨⟨u.positionOf text, u.byteOffset_eq text, u.positionOf_isInverse text,
    u.before_positionOf text⟩, fun p => ?_⟩
  rw [← measure_append, before_append_after]

end

/-- A length in UTF-16 code units that ends inside a surrogate pair goes on to the end of the
character, and one that is too long to the end of the text. -/
theorem exists_byteOffset_emoji :
    ∃ offset : Nat → String.Pos "aé😀b", utf16.IsInverse "aé😀b" offset ∧
      (offset 2).offset.byteIdx = 3 ∧ (offset 3).offset.byteIdx = 7 ∧
      (offset 9).offset.byteIdx = 8 := by
  obtain ⟨⟨offset, hoffset, hinverse, _⟩, _⟩ := exists_byteOffset utf16 "aé😀b"
  have hbyte : ∀ {len b}, utf16.byteOffset "aé😀b" len = some b →
      (offset len).offset.byteIdx = b :=
    fun h => Option.some.inj ((hoffset _).symm.trans h)
  exact ⟨offset, hinverse, hbyte (by decide), hbyte (by decide), hbyte (by decide)⟩

end Highlight.LengthUnit
