import Highlight.Unicode.Category
import Highlight.Unicode.Fold
import Highlight.Unicode.Ranges

/-!
# `Highlight.Unicode.Lowercase`: the lower case of a text

Each character goes to its lower case on its own, but for two rules: a capital I with a dot
becomes a small i and a combining dot, and a capital sigma becomes a final sigma where it ends
a word. It does so if a cased character comes before it and none after it, when characters
that case ignores are passed over.

The rules are those of Unicode 16.0 (`CaseMap.lowers`, `Category.of`). A later version has more
letters with a lower case.
-/

set_option autoImplicit false

namespace Highlight.Unicode

/-- Whether a code point is a letter with a case. -/
def isCased (c : Nat) : Bool :=
  match Category.of c with
  | .lu | .ll | .lt => true
  | _ => inRanges Ranges.casedOthers c

/-- Whether a code point is passed over when the end of a word is looked for. -/
def isCaseIgnorable (c : Nat) : Bool :=
  match Category.of c with
  | .mn | .me | .cf | .lm | .sk => true
  | _ => inRanges Ranges.caseIgnorableOthers c

/-- Whether the first character that case does not ignore is cased. -/
def meetsCased (cs : List Char) : Bool :=
  match cs.dropWhile fun c => isCaseIgnorable c.toNat with
  | c :: _ => isCased c.toNat
  | [] => false

/-- The lower case of one character, apart from where it stands. -/
def lowerChar (c : Char) : List Char :=
  if c.toNat < 0x80 then [c.toLower]
  else if c.toNat = 0x130 then ['i', Char.ofNat 0x307]
  else match shifted? CaseMap.lowers c.toNat with
    | some d => [Char.ofNat d]
    | none => [c]

/-- The lower case of a list of characters. `before` are the characters already passed, the
latest first. -/
def lowerFrom (before : List Char) : List Char → List Char
  | [] => []
  | c :: cs =>
    let lower :=
      if c.toNat = 0x3A3 then
        if meetsCased before && !meetsCased cs then [Char.ofNat 0x3C2] else [Char.ofNat 0x3C3]
      else lowerChar c
    lower ++ lowerFrom (c :: before) cs

/-- The lower case of a text. -/
def lowercase (s : String) : String :=
  String.ofList (lowerFrom [] s.toList)

end Highlight.Unicode
