import Highlight.Error
import Highlight.Json.Value
import Highlight.LengthUnit

/-!
# `Highlight.LengthUnit.Json`: units in JSON

A unit is written as its name. An object with the name as its only key and `null` as the value
is accepted as well.

`LengthUnit.reader` reads a unit from a text, and `LengthUnit.ofValue` takes one from a value
that has been read before.
-/

set_option autoImplicit false

namespace Highlight.LengthUnit

/-- The names of all units. -/
def names : List String := all.map name

/-- The unit with a name, or the error that there is none. -/
def ofName (s : String) : Except Json.Cause LengthUnit :=
  match named? s with
  | some u => .ok u
  | none => .error (.unknownVariant s names)

/-- Reads the name of a unit. -/
def nameReader : Json.Reader LengthUnit := do
  let s ← Json.Reader.stringValue "variant identifier"
  match ofName s with
  | .ok u => return u
  | .error c => Json.Reader.failHere c

/-- Reads a unit. It is written as its name, or as an object with its name as the only key and
`null` as the value. -/
def reader : Json.Reader LengthUnit := do
  match ← Json.Reader.peekValue with
  | some '"' => nameReader
  | some '\x7b' => do
    Json.Reader.skip
    let u ← nameReader
    Json.Reader.colon
    Json.Reader.nullValue
    match ← Json.Reader.peekToken with
    | some (some '\x7d') => do
      Json.Reader.skip
      return u
    | some _ => Json.Reader.failBetween .noValue
    | none => Json.Reader.failHere .endInObject
  | _ => Json.Reader.failAhead .noValue

/-- Takes a unit from the keys and values of an object. -/
def ofEntries : List (String × Json.Kind) → Except Json.Cause LengthUnit
  | [(s, value)] => do
    let u ← ofName s
    if value = .null then return u else throw (.wrongKind value "unit")
  | _ => .error (.wrongValue .map "map with a single key")

/-- Takes a unit from a value. The keys and values count if it is an object. The faults have other
texts than those of `reader`, and no place. -/
def ofValue (value : Json.Kind) (entries : List (String × Json.Kind)) :
    Except Error LengthUnit :=
  let result := match value with
    | .string s => ofName s
    | .map => ofEntries entries
    | k => .error (.wrongKind k "string or map")
  match result with
  | .ok u => .ok u
  | .error c => .error (.json (.unplaced c))

end Highlight.LengthUnit
