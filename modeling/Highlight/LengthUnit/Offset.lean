import Highlight.LengthUnit

/-!
# `Highlight.LengthUnit.Offset`: where in the bytes of a text a length ends

A text is stored as its UTF-8 form, and a cut of it is given by the number of bytes before it.
`LengthUnit.byteOffset` finds this number for a length. Each unit has a search of its own.

* In characters, the length is the number of a character, and the cut is where that begins.
* In bytes, the length is the cut, unless it is inside a character. Then the search goes on to the
  end of the character.
* In UTF-16 code units, the widths of the characters are added up until they make up the length.

A length that the text does not have ends where the text does.
-/

set_option autoImplicit false

namespace Highlight.LengthUnit

/-- The characters of a text with the bytes where they begin, from a byte on. The list goes through
the text once, as the searches do. -/
def charStarts : Nat → List Char → List (Nat × Char)
  | _, [] => []
  | start, c :: cs => (start, c) :: charStarts (start + c.utf8Size) cs

/-- Goes on from a byte to the next one where a character begins or the text ends. There is none
after the end, so a search that gets there would never come to an end. -/
def nextBoundary (text : String) (start : Nat) : Option Nat :=
  if text.utf8ByteSize < start then none
  else if String.Pos.Raw.isValid text ⟨start⟩ then some start
  else nextBoundary text (start + 1)
termination_by text.utf8ByteSize + 1 - start

/-- Passes characters until their code units make up `len`. `units` have been passed before, and
`size` is where the text ends. -/
def passUnits (len size : Nat) : Nat → List (Nat × Char) → Nat
  | _, [] => size
  | units, (start, c) :: cs =>
    if len ≤ units then start else passUnits len size (units + utf16.width c) cs

/-- The number of bytes before the end of a length, if the search for it ends within the text. It
always does, which is a theorem and not a part of the definition. -/
def byteOffset (u : LengthUnit) (text : String) (len : Nat) : Option Nat :=
  match u with
  | chars => some (((charStarts 0 text.toList)[len]?).elim text.utf8ByteSize (·.1))
  | bytes => nextBoundary text (min len text.utf8ByteSize)
  | utf16 => some (passUnits len text.utf8ByteSize 0 (charStarts 0 text.toList))

end Highlight.LengthUnit
