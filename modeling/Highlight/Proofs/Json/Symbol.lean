import Highlight.Json.Symbol
import Mathlib.Data.List.Basic

/-!
# `Highlight.Proofs.Json.Symbol`: the bytes of a text are read as its characters

`Symbol.ofBytes` goes through bytes of any kind. `ofBytes_toUTF8` says that of the bytes of a text
it makes the characters of the text and nothing else: no byte is left over, and none is taken for a
character of its own.

A character has one to four bytes. For each number of bytes there is a range of first bytes, and a
least code point that is worth so many. `ofBytesFrom_utf8EncodeChar` has a case for each number: the
first byte is in its range only (`ofNat_inRange_iff`), the bytes after it contribute six bits each
(`continuation?_ofNat`), and these bits make up the code point again.
-/

set_option autoImplicit false

namespace Highlight.Json.Symbol

variable {c : Char} {n : Nat}

/-! ### Bytes -/

/-- A byte has the number that it was made of. -/
theorem toNat_ofNat_byte (h : n < 256) : (UInt8.ofNat n).toNat = n := by
  rw [UInt8.toNat_ofNat', Nat.mod_eq_of_lt h]

/-- In which range a byte is can be told from its number. The ranges are written with bytes, and the
arithmetic is that of numbers. -/
theorem ofNat_inRange_iff (lo hi : UInt8) (h : n < 256) :
    (lo ≤ UInt8.ofNat n ∧ UInt8.ofNat n < hi) ↔ lo.toNat ≤ n ∧ n < hi.toNat := by
  rw [UInt8.le_iff_toNat_le, UInt8.lt_iff_toNat_lt, toNat_ofNat_byte h]

/-- A byte that continues a character contributes its lower six bits. -/
theorem continuation?_ofNat (h : n < 64) : continuation? (UInt8.ofNat (n + 128)) = some n := by
  have hbyte : n + 128 < 256 := by omega
  have hrange : 0x80 ≤ UInt8.ofNat (n + 128) ∧ UInt8.ofNat (n + 128) < 0xC0 :=
    (ofNat_inRange_iff 0x80 0xC0 hbyte).mpr ⟨Nat.le_add_left _ _, Nat.add_lt_add_right h 128⟩
  rw [continuation?, if_pos hrange, toNat_ofNat_byte hbyte, Nat.add_sub_cancel]

/-- The code point of a character is that character, if it is not written with too many bytes. -/
theorem char?_toNat {least : Nat} (h : least ≤ c.toNat) : char? least c.toNat = some c := by
  have hvalid : c.toNat.isValidChar := c.valid
  rw [char?, if_pos ⟨h, hvalid⟩, Char.ofNat_toNat]

/-! ### Characters of several bytes -/

/-- A character that takes two bytes is read from them, whatever bytes follow. The first byte has
the high bits of its code point, and the second one has the six low bits. -/
theorem longChar?_two (hleast : 0x80 ≤ c.toNat) (hmost : c.toNat < 0x800)
    (bs : List UInt8) :
    longChar? (UInt8.ofNat (c.toNat / 64 % 32 + 192) :: UInt8.ofNat (c.toNat % 64 + 128) :: bs)
      = some (c, 2) := by
  have hbyte : c.toNat / 64 % 32 + 192 < 256 := by omega
  have hrange := (ofNat_inRange_iff 0xC0 0xE0 hbyte).mpr ⟨Nat.le_add_left _ _, by simp; omega⟩
  -- The bits of the two bytes make up the code point again.
  have hn : (c.toNat / 64 % 32 + 192 - 192) * 64 + c.toNat % 64 = c.toNat := by omega
  have hlast := continuation?_ofNat (Nat.mod_lt c.toNat (y := 64) (by decide))
  simp only [longChar?]
  rw [if_pos hrange, hlast, toNat_ofNat_byte hbyte]
  show (char? 0x80 _).bind _ = _
  rw [hn, char?_toNat hleast]
  rfl

/-- A character that takes three bytes is read from them. Five bits have turned into four in the
first byte, so it is in another range than that of two. -/
theorem longChar?_three (hleast : 0x800 ≤ c.toNat) (hmost : c.toNat < 0x10000)
    (bs : List UInt8) :
    longChar? (UInt8.ofNat (c.toNat / 4096 % 16 + 224) :: UInt8.ofNat (c.toNat / 64 % 64 + 128)
      :: UInt8.ofNat (c.toNat % 64 + 128) :: bs) = some (c, 3) := by
  have hbyte : c.toNat / 4096 % 16 + 224 < 256 := by omega
  -- The first byte is beyond those of shorter characters.
  have hnot := mt (ofNat_inRange_iff 0xC0 0xE0 hbyte).mp (by simp)
  have hrange := (ofNat_inRange_iff 0xE0 0xF0 hbyte).mpr ⟨Nat.le_add_left _ _, by simp; omega⟩
  have hn : ((c.toNat / 4096 % 16 + 224 - 224) * 64 + c.toNat / 64 % 64) * 64 + c.toNat % 64
      = c.toNat := by omega
  have hmid := continuation?_ofNat (Nat.mod_lt (c.toNat / 64) (y := 64) (by decide))
  have hlast := continuation?_ofNat (Nat.mod_lt c.toNat (y := 64) (by decide))
  simp only [longChar?]
  rw [if_neg hnot, if_pos hrange, hmid, hlast, toNat_ofNat_byte hbyte]
  show (char? 0x800 _).bind _ = _
  rw [hn, char?_toNat hleast]
  rfl

/-- A character that takes four bytes is read from them. That it is not beyond the last code point
is a property of characters. -/
theorem longChar?_four (hleast : 0x10000 ≤ c.toNat) (bs : List UInt8) :
    longChar? (UInt8.ofNat (c.toNat / 262144 % 8 + 240) :: UInt8.ofNat (c.toNat / 4096 % 64 + 128)
      :: UInt8.ofNat (c.toNat / 64 % 64 + 128) :: UInt8.ofNat (c.toNat % 64 + 128) :: bs)
      = some (c, 4) := by
  have hmost : c.toNat < 0x110000 := by
    have hvalid : c.toNat.isValidChar := c.valid
    rcases hvalid with h | h <;> omega
  have hbyte : c.toNat / 262144 % 8 + 240 < 256 := by omega
  -- The first byte is beyond those of characters with two bytes and with three.
  have hnot := mt (ofNat_inRange_iff 0xC0 0xE0 hbyte).mp (by simp)
  have hnot' := mt (ofNat_inRange_iff 0xE0 0xF0 hbyte).mp (by simp)
  have hrange := (ofNat_inRange_iff 0xF0 0xF8 hbyte).mpr ⟨Nat.le_add_left _ _, by simp; omega⟩
  have hn : (((c.toNat / 262144 % 8 + 240 - 240) * 64 + c.toNat / 4096 % 64) * 64
      + c.toNat / 64 % 64) * 64 + c.toNat % 64 = c.toNat := by omega
  have hsecond := continuation?_ofNat (Nat.mod_lt (c.toNat / 4096) (y := 64) (by decide))
  have hthird := continuation?_ofNat (Nat.mod_lt (c.toNat / 64) (y := 64) (by decide))
  have hlast := continuation?_ofNat (Nat.mod_lt c.toNat (y := 64) (by decide))
  simp only [longChar?]
  rw [if_neg hnot, if_neg hnot', if_pos hrange, hsecond, hthird, hlast, toNat_ofNat_byte hbyte]
  show (char? 0x10000 _).bind _ = _
  rw [hn, char?_toNat hleast]
  rfl

/-! ### Texts -/

/-- A byte that begins a longer character is not a character by itself. -/
theorem not_lt_ofNat (hlarge : 128 ≤ n) (h : n < 256) : ¬ UInt8.ofNat n < 0x80 := by
  rw [UInt8.lt_iff_toNat_lt, toNat_ofNat_byte h]
  exact Nat.not_lt.mpr hlarge

/-- The first character of the bytes of a text is read, and what is left is read on. The cases are
those of the encoding, by the number of bytes that the character takes. -/
theorem ofBytesFrom_utf8EncodeChar (c : Char) (bs : List UInt8) (acc : List Symbol) :
    ofBytesFrom 0 (String.utf8EncodeChar c ++ bs) acc = ofBytesFrom 0 bs (some c :: acc) := by
  have hval : c.val.toNat = c.toNat := rfl
  unfold String.utf8EncodeChar
  simp only [hval]
  split
  · rename_i hone
    -- One byte, which is the code point.
    have hbyte := toNat_ofNat_byte (n := c.toNat) (by omega)
    have hlt : UInt8.ofNat c.toNat < 0x80 := by
      rw [UInt8.lt_iff_toNat_lt, hbyte]
      exact Nat.lt_succ_of_le hone
    rw [List.singleton_append, ofBytesFrom, if_pos hlt, hbyte, Char.ofNat_toNat]
  · rename_i hone
    split
    · rename_i htwo
      have hlong := longChar?_two (c := c) (by omega) (by omega) bs
      have hnot := not_lt_ofNat (n := c.toNat / 64 % 32 + 192) (by omega) (by omega)
      simp only [List.cons_append, List.nil_append, ofBytesFrom, if_neg hnot, hlong]
    · rename_i htwo
      split
      · rename_i hthree
        have hlong := longChar?_three (c := c) (by omega) (by omega) bs
        have hnot := not_lt_ofNat (n := c.toNat / 4096 % 16 + 224) (by omega) (by omega)
        simp only [List.cons_append, List.nil_append, ofBytesFrom, if_neg hnot, hlong]
      · rename_i hthree
        have hlong := longChar?_four (c := c) (by omega) bs
        have hnot := not_lt_ofNat (n := c.toNat / 262144 % 8 + 240) (by omega) (by omega)
        simp only [List.cons_append, List.nil_append, ofBytesFrom, if_neg hnot, hlong]

/-- The bytes of characters in UTF-8 are read as these characters. So a file with the bytes of a
text has the symbols of that text. -/
theorem ofBytes_flatMap (cs : List Char) :
    ofBytes (cs.flatMap String.utf8EncodeChar) = ofChars cs := by
  -- The symbols are gathered in reverse, so the induction is about any that were read before.
  have hfrom : ∀ acc, ofBytesFrom 0 (cs.flatMap String.utf8EncodeChar) acc
      = acc.reverse ++ ofChars cs := by
    induction cs with
    | nil => exact fun acc => (List.append_nil _).symm
    | cons c cs ih =>
        intro acc
        rw [List.flatMap_cons, ofBytesFrom_utf8EncodeChar, ih]
        simp [ofChars]
  exact hfrom []

/-- The bytes of a text are those of its characters, one after another. -/
theorem toUTF8_toList (s : String) :
    s.toUTF8.data.toList = s.toList.flatMap String.utf8EncodeChar := by
  have hencode : s.toByteArray = s.toList.utf8Encode := String.utf8Encode_toList.symm
  rw [String.toUTF8, hencode, List.utf8Encode, List.data_toByteArray, List.toList_toArray]

/-- The bytes of a text are read as its characters. So a file with this text holds the same symbols
as the text itself. -/
theorem ofBytes_toUTF8 (s : String) : ofBytes s.toUTF8.data.toList = ofChars s.toList := by
  rw [toUTF8_toList, ofBytes_flatMap]

/-- The symbols of a text take as many bytes as the text. Places in faults are counted in bytes, and
this is what their bound comes from. -/
theorem size_ofChars (s : String) : size (ofChars s.toList) = s.utf8ByteSize := by
  have hbytes : s.utf8ByteSize = s.toUTF8.data.toList.length := rfl
  have hfrom : ∀ (cs : List Char) (n : Nat), (ofChars cs).foldl (fun n s => n + width s) n
      = n + (cs.flatMap String.utf8EncodeChar).length := by
    intro cs
    induction cs with
    | nil => exact fun n => rfl
    | cons c cs ih =>
        intro n
        rw [ofChars, List.map_cons, List.foldl_cons, ← ofChars, ih, List.flatMap_cons,
          List.length_append, String.length_utf8EncodeChar, Nat.add_assoc]
        rfl
  rw [hbytes, toUTF8_toList, size, hfrom, Nat.zero_add]

end Highlight.Json.Symbol
