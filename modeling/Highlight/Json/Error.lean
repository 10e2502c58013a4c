import Highlight.Text.Quoted

/-!
# `Highlight.Json.Error`: what can be wrong with a JSON text

A `Cause` is one reason for rejecting a text, and `Cause.message` its wording. An `Error` is a
cause with the line and column where the reader stopped. Columns count bytes. An error without
a place has line 0.

`Kind` is what a JSON value is, as far as messages tell.
-/

set_option autoImplicit false

namespace Highlight.Json

/-- What a JSON value is. -/
inductive Kind where
  | null
  | boolean (b : Bool)
  -- Only an integer that fits into 64 bits counts as one.
  | integer (n : Int)
  -- Another number, with the shortest text for it
  | float (text : String)
  | string (s : String)
  | sequence
  | map
  deriving DecidableEq, Repr

namespace Kind

/-- The wording of a kind. -/
def text : Kind → String
  | null => "null"
  | boolean b => "boolean `" ++ (if b then "true" else "false") ++ "`"
  | integer n => "integer `" ++ toString n ++ "`"
  | float s => "floating point `" ++ s ++ "`"
  | string s => "string " ++ Text.quoted s
  | sequence => "sequence"
  | map => "map"

end Kind

/-- A reason to reject a JSON text. -/
inductive Cause where
  -- The text ends too early.
  | endInValue | endInList | endInObject | endInString
  -- Something else stands where a colon, a comma or a value should be.
  | noColon | noListComma | noObjectComma | noValue
  -- A word is none of `null`, `true` and `false`.
  | unknownWord
  | invalidEscape
  | invalidNumber | numberOutOfRange
  -- A string has bytes that are part of no character.
  | invalidCodePoint
  | controlCharacter
  | keyNotString
  -- One half of a surrogate pair lacks the other.
  | loneSurrogate | endOfHexEscape
  -- A comma stands before a closing bracket.
  | trailingComma
  -- Something follows the end.
  | trailingCharacters
  -- A value is of another kind than expected, or of that kind and not allowed.
  | wrongKind (found : Kind) (expected : String)
  | wrongValue (found : Kind) (expected : String)
  | wrongLength (found : Nat) (expected : String)
  | missingField (name : String)
  | duplicateField (name : String)
  | unknownVariant (name : String) (expected : List String)
  -- The text could not be read because it is a directory.
  | directory
  deriving DecidableEq, Repr

namespace Cause

/-- A name as messages show it. -/
def ticked (name : String) : String := "`" ++ name ++ "`"

/-- The wording of a cause. -/
def message : Cause → String
  | endInValue => "EOF while parsing a value"
  | endInList => "EOF while parsing a list"
  | endInObject => "EOF while parsing an object"
  | endInString => "EOF while parsing a string"
  | noColon => "expected `:`"
  | noListComma => "expected `,` or `]`"
  | noObjectComma => "expected `,` or `\x7d`"
  | noValue => "expected value"
  | unknownWord => "expected ident"
  | invalidEscape => "invalid escape"
  | invalidNumber => "invalid number"
  | numberOutOfRange => "number out of range"
  | invalidCodePoint => "invalid unicode code point"
  | controlCharacter =>
    "control character (\\u0000-\\u001F) found while parsing a string"
  | keyNotString => "key must be a string"
  | loneSurrogate => "lone leading surrogate in hex escape"
  | endOfHexEscape => "unexpected end of hex escape"
  | trailingComma => "trailing comma"
  | trailingCharacters => "trailing characters"
  | wrongKind found expected => "invalid type: " ++ found.text ++ ", expected " ++ expected
  | wrongValue found expected => "invalid value: " ++ found.text ++ ", expected " ++ expected
  | wrongLength found expected =>
    "invalid length " ++ toString found ++ ", expected " ++ expected
  | missingField name => "missing field " ++ ticked name
  | duplicateField name => "duplicate field " ++ ticked name
  | unknownVariant name expected =>
    "unknown variant " ++ ticked name ++ ", expected one of "
      ++ ", ".intercalate (expected.map ticked)
  | directory => "Is a directory (os error 21)"

end Cause

/-- A rejected JSON text. -/
structure Error where
  /-- The reason -/
  cause : Cause
  /-- The line where the reader stopped, counted from 1, or 0 if there is no place -/
  line : Nat
  /-- The number of bytes before that place in its line -/
  column : Nat
  deriving DecidableEq, Repr

namespace Error

/-- An error without a place. -/
def unplaced (c : Cause) : Error := ⟨c, 0, 0⟩

/-- The wording of an error, with its place if it has one. -/
def message (e : Error) : String :=
  if e.line = 0 then e.cause.message
  else
    e.cause.message ++ " at line " ++ toString e.line ++ " column " ++ toString e.column

/-- The parts of an error, as shown when a program ends with it. -/
def details (e : Error) : String :=
  "Error(" ++ Text.quoted e.cause.message ++ ", line: " ++ toString e.line ++ ", column: "
    ++ toString e.column ++ ")"

end Error

end Highlight.Json
