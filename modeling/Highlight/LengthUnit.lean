/-!
# `Highlight.LengthUnit`: what a length counts

A text can be measured in characters, in UTF-8 bytes or in UTF-16 code units. Each unit gives
every character a positive width, and the measure of a text is the sum of the widths.

`LengthUnit.reach` is the way back: the number of characters of the shortest beginning of a
text that measures at least a given length. A length that ends inside a character therefore
counts to the end of that character.
-/

set_option autoImplicit false

namespace Highlight

/-- What a length counts. A text has the same pieces in each unit, and other lengths. -/
inductive LengthUnit where
  /-- Characters -/
  | chars
  /-- The bytes of the UTF-8 form -/
  | bytes
  /-- The code units of the UTF-16 form -/
  | utf16
  deriving DecidableEq, Repr, Inhabited

namespace LengthUnit

/-- All units, in the order in which they are listed to the user. -/
def all : List LengthUnit := [.chars, .bytes, .utf16]

/-- The name of a unit in span files. -/
def name : LengthUnit → String
  | chars => "Chars"
  | bytes => "Bytes"
  | utf16 => "Utf16"

/-- The unit with a name. -/
def named? (s : String) : Option LengthUnit :=
  all.find? fun u => u.name == s

/-- How much one character counts. It is never nothing, so a longer beginning of a text measures
more. -/
def width : LengthUnit → Char → Nat
  | chars, _ => 1
  | bytes, c => c.utf8Size
  | utf16, c => if c.toNat < 0x10000 then 1 else 2

/-- The length of a list of characters. It is the sum of their widths. -/
def measure (u : LengthUnit) (cs : List Char) : Nat :=
  cs.foldl (fun n c => n + u.width c) 0

/-- Counts on from `n` the characters needed to make up `len`, or all there are. A character that is
wider than what is left of the length is counted, and makes the length 0. -/
def reachFrom (u : LengthUnit) : Nat → Nat → List Char → Nat
  | n, 0, _ => n
  | n, _ + 1, [] => n
  | n, len + 1, c :: cs => reachFrom u (n + 1) (len + 1 - u.width c) cs

/-- The number of characters of the shortest beginning that measures at least `len`, or of the
whole list if it measures less. -/
def reach (u : LengthUnit) (len : Nat) (cs : List Char) : Nat :=
  u.reachFrom 0 len cs

end LengthUnit

end Highlight
