import Highlight.Json.Error
import Highlight.Json.Symbol

/-!
# `Highlight.Json.Reader`: reading from a JSON text

A `Reader` takes what it needs from the front of a list of symbols, or fails with a `Fault`.
A fault tells how many bytes were left, which gives the place of the error. There are two
counts: a reader of a whole text has used only what it has taken, whereas a reader of a stream
has also used the symbol that it has looked at. The three ways of failing differ in this:

* `failHere`: the fault is at what has just been taken;
* `failAhead`: the fault is at the next symbol, the first byte of which counts as used in both
  ways of reading;
* `failBetween`: the fault is at what has been taken, after a look at the next symbol.

`Fault.place` turns a fault into an error once the whole text and the way of reading are known.
-/

set_option autoImplicit false

namespace Highlight.Json

/-- How a text is read. -/
inductive Source where
  | whole
  | stream
  deriving DecidableEq, Repr

/-- A failure of a reader. -/
structure Fault where
  /-- The reason -/
  cause : Cause
  /-- The number of bytes left if the text is read as a whole -/
  leftOfWhole : Nat
  /-- The number of bytes left if the text is read as a stream -/
  leftOfStream : Nat
  deriving DecidableEq, Repr

namespace Fault

/-- A fault at what has been taken. -/
def here (c : Cause) (rest : List Symbol) : Fault :=
  ⟨c, Symbol.size rest, Symbol.size rest⟩

/-- A fault at the next symbol. -/
def ahead (c : Cause) (rest : List Symbol) : Fault :=
  ⟨c, Symbol.size rest - 1, Symbol.size rest - 1⟩

/-- A fault at what has been taken, after a look at the next symbol. -/
def between (c : Cause) (rest : List Symbol) : Fault :=
  ⟨c, Symbol.size rest, Symbol.size rest - 1⟩

/-- The error that a fault stands for, in a text read in a certain way. -/
def place (f : Fault) (source : Source) (text : List Symbol) : Error :=
  let left := match source with
    | .whole => f.leftOfWhole
    | .stream => f.leftOfStream
  let (line, column) := Symbol.place text (Symbol.size text - left)
  ⟨f.cause, line, column⟩

end Fault

/-- Takes what it needs from the front of a list of symbols. -/
abbrev Reader := StateT (List Symbol) (Except Fault)

namespace Reader

variable {α σ : Type}

/-- Fails at what has just been taken. -/
def failHere (c : Cause) : Reader α := fun rest => .error (.here c rest)

/-- Fails at the next symbol. -/
def failAhead (c : Cause) : Reader α := fun rest => .error (.ahead c rest)

/-- Fails at what has been taken, after a look at the next symbol. -/
def failBetween (c : Cause) : Reader α := fun rest => .error (.between c rest)

/-- Looks at the next symbol, if there is one. -/
def peek : Reader (Option Symbol) := fun rest => .ok (rest.head?, rest)

/-- Drops the next symbol. -/
def skip : Reader Unit := fun rest => .ok ((), rest.drop 1)

/-- Whether a symbol is white space. -/
def isSpace (s : Symbol) : Bool :=
  s == some ' ' || s == some '\n' || s == some '\t' || s == some '\r'

/-- Drops white space and looks at the next symbol, if there is one. -/
def peekToken : Reader (Option Symbol) := fun rest =>
  let rest := rest.dropWhile isSpace
  .ok (rest.head?, rest)

/-- Looks at the next symbol, which must be there since a value begins with it. -/
def peekValue : Reader Symbol := do
  match ← peekToken with
  | some s => return s
  | none => failAhead .endInValue

/-- Takes the rest of a word. -/
def word : List Char → Reader Unit
  | [] => return
  | c :: cs => do
    match ← peek with
    | none => failHere .endInValue
    | some s => if s = some c then do skip; word cs else failAhead .unknownWord

/-- Takes the colon after a key. -/
def colon : Reader Unit := do
  match ← peekToken with
  | some (some ':') => skip
  | some _ => failAhead .noColon
  | none => failAhead .endInObject

/-- Takes the end of a list, all of whose elements have been read. -/
def listEnd : Reader Unit := do
  match ← peekToken with
  | some (some ']') => skip
  | some (some ',') => do
    skip
    match ← peekToken with
    | some (some ']') => failAhead .trailingComma
    | _ => failAhead .trailingCharacters
  | some _ => failAhead .trailingCharacters
  | none => failAhead .endInList

/-- Takes the end of an object, all of whose members have been read. -/
def objectEnd : Reader Unit := do
  match ← peekToken with
  | some (some '\x7d') => skip
  | some (some ',') => failAhead .trailingComma
  | some _ => failAhead .trailingCharacters
  | none => failAhead .endInObject

/-- Fails because of a list as a whole, after a try to take its end. -/
def failList (c : Cause) : Reader α := do
  match ← peekToken with
  | some (some ']') => skip; failHere c
  | some (some ',') => skip; discard peekToken; failBetween c
  | _ => failBetween c

/-- Fails because of an object as a whole, after a try to take its end. -/
def failObject (c : Cause) : Reader α := do
  match ← peekToken with
  | some (some '\x7d') => skip; failHere c
  | _ => failBetween c

/-- Whether a list goes on. If so, the next element is in front. -/
def hasElement (first : Bool) : Reader Bool := do
  match ← peekToken with
  | none => failAhead .endInList
  | some (some ']') => return false
  | some s =>
    if first then return true
    else if s = some ',' then
      skip
      match ← peekToken with
      | some (some ']') => failAhead .trailingComma
      | some _ => return true
      | none => failAhead .endInValue
    else failAhead .noListComma

/-- Whether an object goes on. If so, the next key is in front. -/
def hasMember (first : Bool) : Reader Bool := do
  match ← peekToken with
  | none => failAhead .endInObject
  | some (some '\x7d') => return false
  | some s =>
    if first then
      if s = some '"' then return true else failAhead .keyNotString
    else if s = some ',' then
      skip
      match ← peekToken with
      | some (some '"') => return true
      | some (some '\x7d') => failAhead .trailingComma
      | some _ => failAhead .keyNotString
      | none => failAhead .endInValue
    else failAhead .noObjectComma

/-- Makes sure that nothing but white space is left. -/
def textEnd : Reader Unit := do
  match ← peekToken with
  | some _ => failAhead .trailingCharacters
  | none => return

/-- Reads a whole text. -/
def run (r : Reader α) (source : Source) (text : List Symbol) : Except Error α :=
  match (do let a ← r; textEnd; return a : Reader α) text with
  | .ok (a, _) => .ok a
  | .error f => .error (f.place source text)

end Reader

end Highlight.Json
