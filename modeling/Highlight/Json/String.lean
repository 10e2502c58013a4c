import Highlight.Json.Reader

/-!
# `Highlight.Json.String`: strings of a JSON text

`Reader.string` reads a string whose opening quote has been taken, and `Reader.skipString`
drops one. Escapes are resolved, a pair of surrogates to one character. `written` is the way
back: it writes a text between quotes, with an escape for each character that needs one.
-/

set_option autoImplicit false

namespace Highlight.Json

/-- The value of a hexadecimal digit. -/
def hexDigit? (c : Char) : Option Nat :=
  if '0' ≤ c ∧ c ≤ '9' then some (c.toNat - '0'.toNat)
  else if 'a' ≤ c ∧ c ≤ 'f' then some (c.toNat - 'a'.toNat + 10)
  else if 'A' ≤ c ∧ c ≤ 'F' then some (c.toNat - 'A'.toNat + 10)
  else none

/-- The character of a simple escape. -/
def simpleEscape? : Char → Option Char
  | '"' => some '"'
  | '\\' => some '\\'
  | '/' => some '/'
  | 'b' => some '\x08'
  | 'f' => some '\x0c'
  | 'n' => some '\n'
  | 'r' => some '\r'
  | 't' => some '\t'
  | _ => none

/-- Whether a character may not stand in a string. -/
def isControl (c : Char) : Bool := decide (c.toNat < 0x20)

namespace Reader

/-- Reads a number of four hexadecimal digits. -/
def hexNumber : Reader Nat := fun rest =>
  let left := Symbol.size rest
  if left < 4 then .error ⟨.endInString, 0, 0⟩
  else
    let fault : Except Fault (Nat × List Symbol) := .error ⟨.invalidEscape, left - 4, left - 4⟩
    match rest with
    | some a :: some b :: some c :: some d :: rest =>
      match hexDigit? a, hexDigit? b, hexDigit? c, hexDigit? d with
      | some a, some b, some c, some d => .ok (((a * 16 + b) * 16 + c) * 16 + d, rest)
      | _, _, _, _ => fault
    | _ => fault

/-- Looks at the next symbol of a string, which must be there. -/
def peekInString : Reader Symbol := do
  match ← peek with
  | some s => return s
  | none => failHere .endInString

/-- Takes a symbol that must follow the first half of a surrogate pair. -/
def expectInPair (c : Char) : Reader Unit := do
  if (← peekInString) = some c then skip else failAhead .endOfHexEscape

/-- Reads the character of an escape by number, after the `u`. -/
def numberEscape : Reader Char := do
  let n ← hexNumber
  if 0xDC00 ≤ n ∧ n ≤ 0xDFFF then failHere .loneSurrogate
  else if n < 0xD800 ∨ 0xDBFF < n then return Char.ofNat n
  else
    expectInPair '\\'
    expectInPair 'u'
    let m ← hexNumber
    if m < 0xDC00 ∨ 0xDFFF < m then failHere .loneSurrogate
    else return Char.ofNat ((n - 0xD800) * 0x400 + (m - 0xDC00) + 0x10000)

/-- Reads the character of an escape, after the backslash. -/
def escape : Reader Char := do
  match ← peekInString with
  | some 'u' => do skip; numberEscape
  | some c =>
    match simpleEscape? c with
    | some d => do skip; return d
    | none => failAhead .invalidEscape
  | none => failAhead .invalidEscape

/-- Ends a string whose characters have been read, the latest first. A byte that is part of no
character is a fault at that byte. -/
def stringEnd (stray : Option Fault) (before : List Char) : Reader String :=
  match stray with
  | none => return String.ofList before.reverse
  | some f => throw f

/-- Reads at most `fuel` characters of a string and its closing quote. `before` are the
characters already read, the latest first, and `stray` is the fault of the first byte that was
part of no character. -/
def stringFrom : Nat → Option Fault → List Char → Reader String
  | 0, _, _ => failHere .endInString
  | fuel + 1, stray, before => do
    match ← peekInString with
    | some '"' => do
      skip
      stringEnd stray before
    | some '\\' => do
      skip
      let c ← escape
      stringFrom fuel stray (c :: before)
    | some c =>
      if isControl c then failAhead .controlCharacter
      else do
        skip
        stringFrom fuel stray (c :: before)
    | none => do
      let rest ← get
      skip
      stringFrom fuel (some (stray.getD (.ahead .invalidCodePoint rest))) before

/-- Reads a string, after its opening quote. -/
def string : Reader String := fun rest => stringFrom (rest.length + 1) none [] rest

/-- Drops an escape, after the backslash. Half a surrogate pair will do. -/
def skipEscape : Reader Unit := do
  match ← peekInString with
  | some 'u' => do skip; discard hexNumber
  | some c => if (simpleEscape? c).isSome then skip else failAhead .invalidEscape
  | none => failAhead .invalidEscape

/-- Drops at most `fuel` characters of a string and its closing quote. -/
def skipStringFrom : Nat → Reader Unit
  | 0 => failHere .endInString
  | fuel + 1 => do
    match ← peekInString with
    | some '"' => skip
    | some '\\' => do
      skip
      skipEscape
      skipStringFrom fuel
    | some c =>
      if isControl c then failBetween .controlCharacter
      else do
        skip
        skipStringFrom fuel
    | none => do
      skip
      skipStringFrom fuel

/-- Drops a string, after its opening quote. -/
def skipString : Reader Unit := fun rest => skipStringFrom (rest.length + 1) rest

end Reader

/-- A character as it is written in a string. -/
def escaped (c : Char) : List Char :=
  if c = '"' then ['\\', '"']
  else if c = '\\' then ['\\', '\\']
  else if c = '\x08' then ['\\', 'b']
  else if c = '\x0c' then ['\\', 'f']
  else if c = '\n' then ['\\', 'n']
  else if c = '\r' then ['\\', 'r']
  else if c = '\t' then ['\\', 't']
  else if isControl c then
    ['\\', 'u', '0', '0', Nat.digitChar (c.toNat / 16), Nat.digitChar (c.toNat % 16)]
  else [c]

/-- A text as a JSON string. -/
def written (s : String) : List Char :=
  '"' :: s.toList.flatMap escaped ++ ['"']

end Highlight.Json
