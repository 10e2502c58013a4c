/-!
# `Highlight.Json.Symbol`: what a JSON text is made of

A JSON text comes as characters, or as the bytes of a file. Bytes are read as the characters
that they encode in UTF-8. A byte that is part of no character stands for itself, as `none`: it
is skipped over in places where the content does not matter, and rejected elsewhere.

Places in a text are counted in bytes.
-/

set_option autoImplicit false

namespace Highlight.Json

/-- A character, or a byte that is part of none. -/
abbrev Symbol := Option Char

namespace Symbol

/-- The number of bytes of a symbol. -/
def width : Symbol → Nat
  | some c => c.utf8Size
  | none => 1

/-- The number of bytes of a list of symbols. -/
def size (ss : List Symbol) : Nat :=
  ss.foldl (fun n s => n + s.width) 0

/-- The symbols of a list of characters. -/
def ofChars (cs : List Char) : List Symbol := cs.map some

/-- The number that a byte contributes if it continues a character. -/
def continuation? (b : UInt8) : Option Nat :=
  if 0x80 ≤ b ∧ b < 0xC0 then some (b.toNat - 0x80) else none

/-- The character with a code point of at least `least`. -/
def char? (least n : Nat) : Option Char :=
  if least ≤ n ∧ n.isValidChar then some (Char.ofNat n) else none

/-- The character of several bytes at the start of a list. -/
def longChar? : List UInt8 → Option (Char × Nat)
  | a :: b :: rest =>
    if 0xC0 ≤ a ∧ a < 0xE0 then do
      let n := (a.toNat - 0xC0) * 64 + (← continuation? b)
      return (← char? 0x80 n, 2)
    else if 0xE0 ≤ a ∧ a < 0xF0 then
      match rest with
      | c :: _ => do
        let n := ((a.toNat - 0xE0) * 64 + (← continuation? b)) * 64 + (← continuation? c)
        return (← char? 0x800 n, 3)
      | [] => none
    else if 0xF0 ≤ a ∧ a < 0xF8 then
      match rest with
      | c :: d :: _ => do
        let n := (((a.toNat - 0xF0) * 64 + (← continuation? b)) * 64 + (← continuation? c)) * 64
          + (← continuation? d)
        return (← char? 0x10000 n, 4)
      | _ => none
    else none
  | _ => none

/-- The symbols of a list of bytes, the first `skip` of which belong to a character already
read. -/
def ofBytesFrom : Nat → List UInt8 → List Symbol → List Symbol
  | _, [], acc => acc.reverse
  | skip + 1, _ :: bs, acc => ofBytesFrom skip bs acc
  | 0, b :: bs, acc =>
    if b < 0x80 then ofBytesFrom 0 bs (some (Char.ofNat b.toNat) :: acc)
    else
      match longChar? (b :: bs) with
      | some (c, n) => ofBytesFrom (n - 1) bs (some c :: acc)
      | none => ofBytesFrom 0 bs (none :: acc)

/-- The symbols of a list of bytes. -/
def ofBytes (bs : List UInt8) : List Symbol := ofBytesFrom 0 bs []

/-- The characters of a list of symbols, if every byte is part of a character. -/
def chars? (ss : List Symbol) : Option (List Char) := ss.mapM id

/-- Counts lines and columns over the first `n` bytes, from a given line and column on. -/
def placeFrom : Nat → Nat → Nat → List Symbol → Nat × Nat
  | line, column, _, [] => (line, column)
  | line, column, n, s :: ss =>
    if n = 0 then (line, column)
    else if s = some '\n' then placeFrom (line + 1) 0 (n - 1) ss
    else placeFrom line (column + min s.width n) (n - s.width) ss

/-- The line and column after the first `n` bytes. Lines count from 1. -/
def place (ss : List Symbol) (n : Nat) : Nat × Nat := placeFrom 1 0 n ss

end Symbol

end Highlight.Json
