import Highlight.Regex.Token.Name

/-!
# `Highlight.Regex.Token.Escape`: characters written by their numbers

* `escapedValue` reads what follows a backslash as one character: a control code, a meta code
  or a letter with a meaning.
* `braced` reads the code points of an escape such as `\x{41 42}`.
* `propertyName` reads the name of an escape such as `\p{Lu}`.
* `bytesToChar?` puts the bytes of one character together.
-/

set_option autoImplicit false

namespace Highlight.Regex

open Highlight.Unicode

/-- The code that a letter after a backslash stands for, which is its own unless the letter
has a meaning. -/
def letterValue (c : Char) : Nat :=
  match c with
  | 'n' => 0x0A
  | 't' => 0x09
  | 'r' => 0x0D
  | 'f' => 0x0C
  | 'a' => 0x07
  | 'b' => 0x08
  | 'e' => 0x1B
  | 'v' => 0x0B
  | _ => c.toNat

/-- Reads the character after a backslash. `\C-x` and `\cx` are control codes, `\M-x` sets
the eighth bit, and both can be applied to an escape. -/
def escapedValue : List Char → Except PatternError (Nat × List Char)
  | [] => .error .endAtEscape
  | 'M' :: [] => .error .endAtMeta
  | 'M' :: '-' :: [] => .error .endAtMeta
  | 'M' :: '-' :: '\\' :: [] => .error .endAtMeta
  | 'M' :: '-' :: '\\' :: r => do
    let (n, rest) ← escapedValue r
    return ((n &&& 0xFF) ||| 0x80, rest)
  | 'M' :: '-' :: c :: r => .ok ((c.toNat &&& 0xFF) ||| 0x80, r)
  | 'M' :: _ => .error .metaCode
  | 'C' :: [] => .error .endAtControl
  | 'C' :: '-' :: [] => .error .endAtControl
  | 'C' :: '-' :: '\\' :: [] => .error .endAtControl
  | 'C' :: '-' :: '\\' :: r => do
    let (n, rest) ← escapedValue r
    return (n &&& 0x9F, rest)
  | 'C' :: '-' :: c :: r => .ok (if c = '?' then 0x7F else c.toNat &&& 0x9F, r)
  | 'C' :: _ => .error .controlCode
  | 'c' :: [] => .error .endAtControl
  | 'c' :: '\\' :: [] => .error .endAtControl
  | 'c' :: '\\' :: r => do
    let (n, rest) ← escapedValue r
    return (n &&& 0x9F, rest)
  | 'c' :: c :: r => .ok (if c = '?' then 0x7F else c.toNat &&& 0x9F, r)
  | c :: r => .ok (letterValue c, r)

/-- What follows the first code point inside the braces of `\x{41 42}`. -/
inductive CodeTail where
  /-- The closing brace -/
  | last
  /-- Another code point -/
  | more
  /-- A hyphen and another code point, the end of a range -/
  | upTo
  deriving DecidableEq, Repr

/-- Whether the character separates code points inside braces. -/
def isCodeSeparator (c : Char) : Bool :=
  c == ' ' || c == '\n'

/-- Reads the rest of the braces after a code point. `ranges` says whether hyphens are
allowed. -/
def codeTail (ranges : Bool) (s : List Char) : Except PatternError (CodeTail × List Char) :=
  match s.dropWhile isCodeSeparator with
  | '}' :: rest => .ok (.last, rest)
  | '-' :: rest =>
    if ranges then .ok (.upTo, rest.dropWhile isCodeSeparator) else .error .codePoint
  | c :: rest =>
    if s.head? != some c && isHexDigit c then .ok (.more, c :: rest) else .error .codePoint
  | [] => .error .codePoint

/-- Reads the first code point inside the braces of `\x{41 42}`, after the opening brace.
Yields nothing if there is no digit. -/
def bracedCode (base : Nat) (isDigit : Char → Bool) (maxDigits : Nat) (ranges : Bool)
    (s : List Char) : Except PatternError (Option (Nat × CodeTail × List Char)) :=
  let (ds, rest) := spanAtMost isDigit maxDigits s
  if ds.isEmpty then .ok none
  else
    match rest with
    | c :: _ =>
      if isDigit c then .error .codePointTooLong
      else do
        let (tail, after) ← codeTail ranges rest
        return some (digitsValue base ds, tail, after)
    | [] => .error .codePoint

/-- Reads the name of a property after the opening brace, up to the closing brace. A leading
circumflex negates. -/
def propertyName (negated : Bool) (s : List Char) :
    Except PatternError (Property × Bool × List Char) :=
  let (flip, s) := match s with
    | '^' :: r => (true, r)
    | _ => (false, s)
  let (name, after) := s.span fun c =>
    c != '}' && c != '(' && c != ')' && c != '{' && c != '|'
  match after with
  | '}' :: rest =>
    match Property.named? name with
    | some p => .ok (p, negated != flip, rest)
    | none => .error (.unknownProperty name)
  | _ :: _ => .error (.unknownProperty name)
  | [] => .error .unclosedGroup

/-- The number of bytes of a character, by its first byte. -/
def byteCount (b : Nat) : Nat :=
  if b < 0xC0 then 1 else if b < 0xE0 then 2 else if b < 0xF0 then 3
  else if b < 0xF8 then 4 else 1

/-- Whether the byte continues a character. -/
def isContinuation (b : Nat) : Bool :=
  decide (0x80 ≤ b) && decide (b < 0xC0)

/-- The character that some bytes encode, if they encode one in the shortest way. -/
def bytesToChar? (bs : List Nat) : Option Char :=
  let char? (lo n : Nat) : Option Char :=
    if lo ≤ n then
      if h : n.isValidChar then some (Char.ofNatAux n h) else none
    else none
  match bs with
  | [a] => if a < 0x80 then char? 0 a else none
  | [a, b] => char? 0x80 ((a &&& 0x1F) <<< 6 ||| (b &&& 0x3F))
  | [a, b, c] => char? 0x800 ((a &&& 0x0F) <<< 12 ||| (b &&& 0x3F) <<< 6 ||| (c &&& 0x3F))
  | [a, b, c, d] =>
    char? 0x10000
      ((a &&& 0x07) <<< 18 ||| (b &&& 0x3F) <<< 12 ||| (c &&& 0x3F) <<< 6 ||| (d &&& 0x3F))
  | _ => none

/-- The character with a code, if there is one. -/
def codeToChar? (n : Nat) : Option Char :=
  if h : n.isValidChar then some (Char.ofNatAux n h) else none

end Highlight.Regex
