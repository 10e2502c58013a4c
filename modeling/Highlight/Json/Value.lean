import Highlight.Json.Number
import Highlight.Json.String

/-!
# `Highlight.Json.Value`: values of a JSON text

Readers for the values that records are made of, and `Reader.skipValue`, which drops a value of
any shape. Nesting may be as deep as it likes: the brackets that are open are kept in a list.
-/

set_option autoImplicit false

namespace Highlight.Json

/-- A bracket that is open. -/
inductive Bracket where
  /-- That of a list -/
  | list
  /-- That of an object -/
  | object
  deriving DecidableEq, Repr

namespace Bracket

/-- The closing bracket. -/
def closing : Bracket → Char
  | list => ']'
  | object => '\x7d'

/-- The error if the text ends inside the brackets. -/
def unclosed : Bracket → Cause
  | list => .endInList
  | object => .endInObject

/-- The error if there is no comma after an element. -/
def noComma : Bracket → Cause
  | list => .noListComma
  | object => .noObjectComma

end Bracket

namespace Reader

variable {α : Type}

/-- Fails because the value in front is of another kind than expected. The value is read as far
as its kind depends on it. -/
def wrongKind (expected : String) : Reader α := do
  match ← peek with
  | some (some 'n') => do
    skip
    word ['u', 'l', 'l']
    failHere (.wrongKind .null expected)
  | some (some 't') => do
    skip
    word ['r', 'u', 'e']
    failHere (.wrongKind (.boolean true) expected)
  | some (some 'f') => do
    skip
    word ['a', 'l', 's', 'e']
    failHere (.wrongKind (.boolean false) expected)
  | some (some '"') => do
    skip
    let s ← string
    failHere (.wrongKind (.string s) expected)
  | some (some '[') => failBetween (.wrongKind .sequence expected)
  | some (some '\x7b') => failBetween (.wrongKind .map expected)
  | s =>
    if s = some (some '-') ∨ (digit? s).isSome then do
      let k ← number
      failBetween (.wrongKind k expected)
    else failAhead .noValue

/-- Reads a string, where `expected` is expected. -/
def stringValue (expected : String) : Reader String := do
  if (← peekValue) = some '"' then
    skip
    string
  else wrongKind expected

/-- Reads a string or `null`. -/
def optionalString : Reader (Option String) := do
  if (← peekToken) = some (some 'n') then
    skip
    word ['u', 'l', 'l']
    return none
  else return some (← stringValue "a string")

/-- Reads `null`. -/
def nullValue : Reader Unit := do
  if (← peekValue) = some 'n' then
    skip
    word ['u', 'l', 'l']
  else wrongKind "unit"

/-- Reads a length. -/
def lengthValue : Reader Nat := do
  let s ← peekValue
  if s = some '-' ∨ (digit? (some s)).isSome then
    match ← number with
    | .integer (.ofNat n) => return n
    | .integer n => failBetween (.wrongValue (.integer n) "usize")
    | k => failBetween (.wrongKind k "usize")
  else wrongKind "usize"

/-- Reads at most `fuel` elements and looks at the bracket after them. `before` are the elements
already read, the latest first. -/
def elements (element : Reader α) : Nat → List α → Reader (List α)
  | 0, _ => failAhead .endInList
  | fuel + 1, before => do
    if ← hasElement before.isEmpty then
      let a ← element
      elements element fuel (a :: before)
    else return before.reverse

/-- Reads a list. -/
def listValue (element : Reader α) : Reader (List α) := do
  if (← peekValue) = some '[' then
    skip
    let as ← (fun rest => elements element (rest.length + 1) [] rest)
    listEnd
    return as
  else wrongKind "a sequence"

/-- Goes on after a value inside brackets, or after an opening bracket if `complete` is false.
Drops the brackets that close, and yields those that are open where the next element begins. No
bracket is left open if the value is complete. -/
def closeBrackets : Bool → List Bracket → Reader (List Bracket)
  | _, [] => return []
  | complete, b :: outer => do
    match ← peekToken with
    | none => failAhead b.unclosed
    | some s =>
      if complete && s == some ',' then
        skip
        return b :: outer
      else if s = some b.closing then
        skip
        closeBrackets true outer
      else if complete then failAhead b.noComma
      else return b :: outer

/-- Drops the key in front, with its colon. -/
def skipKey : Reader Unit := do
  match ← peekToken with
  | some (some '"') => do
    skip
    skipString
    colon
  | some _ => failAhead .keyNotString
  | none => failAhead .endInObject

/-- Drops what stands for a value up to its first bracket. Tells which bracket that is. -/
def skipScalar : Reader (Option Bracket) := do
  match ← peekValue with
  | some 'n' => do
    skip
    word ['u', 'l', 'l']
    return none
  | some 't' => do
    skip
    word ['r', 'u', 'e']
    return none
  | some 'f' => do
    skip
    word ['a', 'l', 's', 'e']
    return none
  | some '"' => do
    skip
    skipString
    return none
  | some '[' => do
    skip
    return some .list
  | some '\x7b' => do
    skip
    return some .object
  | s =>
    if s = some '-' ∨ (digit? (some s)).isSome then do
      skipNumber
      return none
    else failAhead .noValue

/-- Drops at most `fuel` elements inside the brackets that are open. -/
def skipFrom : Nat → List Bracket → Reader Unit
  | 0, _ => failAhead .endInValue
  | fuel + 1, brackets => do
    let left ← match ← skipScalar with
      | none => closeBrackets true brackets
      | some b => closeBrackets false (b :: brackets)
    match left with
    | [] => return
    | .object :: _ => do
      skipKey
      skipFrom fuel left
    | .list :: _ => skipFrom fuel left

/-- Drops a value. -/
def skipValue : Reader Unit := fun rest => skipFrom (rest.length + 1) [] rest

end Reader

end Highlight.Json
