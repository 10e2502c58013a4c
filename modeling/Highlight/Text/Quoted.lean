import Highlight.Unicode.Category
import Highlight.Unicode.Ranges

/-!
# `Highlight.Text.Quoted`: text between double quotes

`quoted s` is `s` between double quotes, in one line of printable characters. A quote, a
backslash, the usual line controls and the null character have escapes of two characters. All
else that has no glyph of its own is written as its code point in hexadecimal: controls,
formats, private and unassigned code points, separators other than the space, and marks that
would join the character before them.
-/

set_option autoImplicit false

namespace Highlight.Text

open Highlight.Unicode

/-- Whether a code point joins the character before it. -/
def isJoining (c : Nat) : Bool :=
  match Category.of c with
  | .mn | .me => true
  | _ => inRanges Ranges.graphemeExtendOthers c

/-- Whether a code point has a glyph, or is the space. -/
def isPrintable (c : Nat) : Bool :=
  match Category.of c with
  | .cc | .cf | .cs | .co | .cn | .zl | .zp => false
  | .zs => c == 0x20
  | _ => true

/-- The code point of a character between braces, after `\u`. -/
def codePointEscape (c : Char) : List Char :=
  ['\\', 'u', '\x7b'] ++ Nat.toDigits 16 c.toNat ++ ['\x7d']

/-- A character as it stands between quotes. -/
def escaped (c : Char) : List Char :=
  if c = '\x00' then ['\\', '0']
  else if c = '\t' then ['\\', 't']
  else if c = '\r' then ['\\', 'r']
  else if c = '\n' then ['\\', 'n']
  else if c = '\\' then ['\\', '\\']
  else if c = '"' then ['\\', '"']
  else if 0x20 ≤ c.toNat ∧ c.toNat < 0x7f then [c]
  else if isJoining c.toNat || !isPrintable c.toNat then codePointEscape c
  else [c]

/-- A text between double quotes. -/
def quoted (s : String) : String :=
  String.ofList ('"' :: s.toList.flatMap escaped ++ ['"'])

end Highlight.Text
