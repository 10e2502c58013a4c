import Highlight.Error
import Highlight.Json.Record
import Highlight.LengthUnit.Json
import Highlight.Span

/-!
# `Highlight.Span.Json`: spans in JSON

Spans are written as a record of the list of spans and their unit. A span is a record of its
style, `null` if there is none, and its length.

One writer makes both the compact text and the one with a line for each value: a `Layout` says
what stands between the parts. `Spans.ofJson` reads either, and everything else that a record
may look like.
-/

set_option autoImplicit false

namespace Highlight

/-- What stands between the parts of a JSON text. In both layouts it is blank, but for the colon,
and so makes no difference to what is read. -/
structure Layout where
  /-- What stands before a part at a depth -/
  gap : Nat → List Char
  /-- What stands between a key and its value -/
  colon : List Char

namespace Layout

/-- Nothing but what must be. -/
def compact : Layout := ⟨fun _ => [], [':']⟩

/-- A line for each part, indented by two spaces for each depth. -/
def pretty : Layout := ⟨fun depth => '\n' :: List.replicate (2 * depth) ' ', [':', ' ']⟩

/-- Parts between brackets at a depth, with commas between them. Without parts there is nothing
between the brackets, not even a line feed. -/
def bracketed (l : Layout) (depth : Nat) (opening closing : Char) (parts : List (List Char)) :
    List Char :=
  if parts.isEmpty then [opening, closing]
  else
    opening :: List.intercalate [','] (parts.map fun p => l.gap (depth + 1) ++ p)
      ++ l.gap depth ++ [closing]

/-- A key with its value. -/
def member (l : Layout) (key : String) (value : List Char) : List Char :=
  Json.written key ++ l.colon ++ value

/-- A list at a depth. -/
def list (l : Layout) (depth : Nat) (parts : List (List Char)) : List Char :=
  l.bracketed depth '[' ']' parts

/-- An object at a depth. -/
def object (l : Layout) (depth : Nat) (members : List (String × List Char)) : List Char :=
  l.bracketed depth '\x7b' '\x7d' (members.map fun m => l.member m.1 m.2)

end Layout

namespace Span

/-- A style, or `null`. -/
def writtenStyle : Option String → List Char
  | some s => Json.written s
  | none => ['n', 'u', 'l', 'l']

/-- A span as JSON, at a depth. -/
def write (l : Layout) (depth : Nat) (s : Span) : List Char :=
  l.object depth [("style", writtenStyle s.style), ("len", Nat.toDigits 10 s.len)]

/-- The fields of a span that have been read. -/
structure Draft where
  style : Option (Option String)
  /-- The length -/
  len : Option Nat

/-- The record of a span. A missing style is no style in an object, while a list has to have both
values. -/
def record : Json.Record Draft where
  name := "Span"
  blank := ⟨none, none⟩
  fields := [
    ⟨"style", false, true, (·.style.isSome), fun d => do
      return { d with style := some (← Json.Reader.optionalString) }⟩,
    ⟨"len", true, true, (·.len.isSome), fun d => do
      return { d with len := some (← Json.Reader.lengthValue) }⟩]

/-- The span that the fields make up. -/
def ofDraft (d : Draft) : Span := ⟨d.style.join, d.len.getD 0⟩

/-- Reads a span. -/
def reader : Json.Reader Span := do
  return ofDraft (← record.read)

end Span

namespace Spans

/-- A list of spans as JSON, at a depth. -/
def writeList (l : Layout) (depth : Nat) (spans : List Span) : List Char :=
  l.list depth (spans.map (Span.write l (depth + 1)))

/-- Spans as JSON. -/
def write (l : Layout) (s : Spans) : List Char :=
  l.object 0 [("spans", writeList l 1 s.spans), ("unit", Json.written s.unit.name)]

/-- Spans as compact JSON. -/
def toJson (s : Spans) : String := String.ofList (s.write .compact)

/-- Spans as JSON with a line for each value. -/
def toPrettyJson (s : Spans) : String := String.ofList (s.write .pretty)

/-- A list of spans as compact JSON. -/
def listToJson (spans : List Span) : String := String.ofList (writeList .compact 0 spans)

/-- The fields of spans that have been read. -/
structure Draft where
  spans : Option (List Span)
  unit : Option LengthUnit

/-- The record of spans. -/
def record : Json.Record Draft where
  name := "StyleSpans"
  blank := ⟨none, none⟩
  fields := [
    ⟨"spans", true, true, (·.spans.isSome), fun d => do
      return { d with spans := some (← Json.Reader.listValue Span.reader) }⟩,
    ⟨"unit", true, true, (·.unit.isSome), fun d => do
      return { d with unit := some (← LengthUnit.reader) }⟩]

/-- The spans that the fields make up. -/
def ofDraft (d : Draft) : Spans := ⟨d.spans.getD [], d.unit.getD .chars⟩

/-- Reads spans. -/
def reader : Json.Reader Spans := do
  return ofDraft (← record.read)

/-- Reads spans from a text. The lengths need not fit any text. -/
def ofJson (text : String) : Except Error Spans :=
  match reader.run .whole (Json.Symbol.ofChars text.toList) with
  | .ok s => .ok s
  | .error e => .error (.json e)

end Spans

end Highlight
