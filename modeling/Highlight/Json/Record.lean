import Highlight.Json.Value

/-!
# `Highlight.Json.Record`: records of a JSON text

A record can be written as an object, with its fields in any order, or as a list of the values
of its fields in their own order. Members with other keys are skipped. A field may come once.

`Field` describes a field of a record that is put together in a value of type `σ`. Some fields
may be left out of an object, and some, if nothing comes after them, out of a list.
-/

set_option autoImplicit false

namespace Highlight.Json

/-- A field of a record. -/
structure Field (σ : Type) where
  /-- Its key -/
  name : String
  /-- Whether an object must have it -/
  inObject : Bool
  /-- Whether a list must have it -/
  inList : Bool
  /-- Whether it has been read -/
  isSet : σ → Bool
  read : σ → Reader σ

/-- A kind of record. -/
structure Record (σ : Type) where
  /-- Its name in messages -/
  name : String
  fields : List (Field σ)
  /-- The record with no field set -/
  blank : σ

namespace Record

variable {σ : Type}

/-- What messages call the record. -/
def title (r : Record σ) : String := "struct " ++ r.name

/-- What messages call the record when its length is wrong. -/
def sizedTitle (r : Record σ) : String :=
  r.title ++ " with " ++ toString r.fields.length ++ " elements"

/-- Reads at most `fuel` members of an object and looks at the bracket after them. -/
def members (r : Record σ) : Nat → Bool → σ → Reader σ
  | 0, _, _ => .failAhead .endInObject
  | fuel + 1, first, a => do
    if ← Reader.hasMember first then
      Reader.skip
      let key ← Reader.string
      match r.fields.find? fun f => f.name == key with
      | none => do
        Reader.colon
        Reader.skipValue
        members r fuel false a
      | some f => do
        if f.isSet a then Reader.failObject (.duplicateField f.name)
        Reader.colon
        let a ← f.read a
        members r fuel false a
    else
      match r.fields.find? fun f => f.inObject && !f.isSet a with
      | some f => Reader.failObject (.missingField f.name)
      | none => return a

/-- Reads the values of fields in a list. `index` fields have been read before. -/
def values (r : Record σ) : List (Field σ) → Nat → σ → Reader σ
  | [], _, a => return a
  | f :: fs, index, a => do
    if ← Reader.hasElement (index == 0) then
      let a ← f.read a
      values r fs (index + 1) a
    else
      match (f :: fs).findIdx? (·.inList) with
      | some k => Reader.failList (.wrongLength (index + k) r.sizedTitle)
      | none => return a

/-- Reads a record. -/
def read (r : Record σ) : Reader σ := do
  match ← Reader.peekValue with
  | some '[' => do
    Reader.skip
    let a ← r.values r.fields 0 r.blank
    Reader.listEnd
    return a
  | some '\x7b' => do
    Reader.skip
    let a ← (fun rest => r.members (rest.length + 1) true r.blank rest)
    Reader.objectEnd
    return a
  | _ => Reader.wrongKind r.title

end Record

end Highlight.Json
