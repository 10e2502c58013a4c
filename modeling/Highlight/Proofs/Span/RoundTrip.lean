import Highlight.CommandLine
import Highlight.Proofs.Json.Record
import Highlight.Proofs.Json.Yields
import Mathlib

/-!
# `Highlight.Proofs.Span.RoundTrip`: spans come back from JSON

`Spans.json_round_trip` is the main statement. Spans whose lengths fit into 64 bits are read back
from both texts that are written for them, and so are spans that were read from any text.

The first half is `Spans.reads_write`, which holds in every layout. The second half follows from it,
since no length that is read is too great (`Spans.fits_of_ofJson`).
-/

set_option autoImplicit false

namespace Highlight

open Json Json.Symbol Json.Reader

/-! ### Written spans -/

/-- The names of units tell them apart, so a unit is found by its name. -/
theorem LengthUnit.named?_name (u : LengthUnit) : LengthUnit.named? u.name = some u := by
  cases u <;> decide

/-- The name of a unit is read as that unit. -/
theorem LengthUnit.nameReader_written (u : LengthUnit) {rest : List Symbol}
    (hrest : Delimited rest) :
    LengthUnit.nameReader (ofChars (written u.name) ++ rest) = .ok (u, rest) := by
  have hname := (reads_stringValue "variant identifier" u.name).run_nil hrest
  rw [LengthUnit.nameReader, bind_of_ok hname]
  simp only [LengthUnit.ofName, LengthUnit.named?_name]
  rfl

/-- A unit is read as it is written. Other ways of writing it are accepted too, but not written. -/
theorem LengthUnit.reads_name (u : LengthUnit) : Reads LengthUnit.reader (written u.name) u where
  starts := starts_written u.name
  run ws rest hws hrest := by
    show LengthUnit.reader (ofChars ws ++ some '"' :: _) = _
    rw [LengthUnit.reader, bind_of_ok (peekValue_blank hws rfl _)]
    exact LengthUnit.nameReader_written u hrest

namespace Span

variable {l : Layout}

/-- The fields of a span, written in order, make it up. The style comes first, and both are
there. -/
theorem takes_write {s : Span} (hs : s.len ≤ greatestWord) :
    record.Takes [("style", writtenStyle s.style), ("len", Nat.toDigits 10 s.len)] record.blank
      ⟨some s.style, some s.len⟩ :=
  .cons ⟨_, rfl, rfl, (reads_optionalString s.style).map _⟩
    (.cons ⟨_, rfl, rfl, (reads_lengthValue hs).map _⟩ (.nil _))

/-- A span is read as it is written, in every sound layout. -/
theorem reads_write (hl : l.Sound) (depth : Nat) {s : Span} (hs : s.len ≤ greatestWord) :
    Reads reader (s.write l depth) s :=
  (Record.reads_object hl depth (takes_write hs) rfl).map ofDraft

end Span

namespace Spans

variable {l : Layout}

/-- Each length fits into 64 bits, so that it is read as an integer. -/
def Fits (s : Spans) : Prop := ∀ span ∈ s.spans, span.len ≤ greatestWord

/-- A list of spans is read as it is written, if each of its spans can be. -/
theorem reads_writeList (hl : l.Sound) (depth : Nat) {spans : List Span}
    (hspans : ∀ s ∈ spans, s.len ≤ greatestWord) :
    Reads (listValue Span.reader) (writeList l depth spans) spans := by
  refine reads_listValue hl (List.forall₂_map_left_iff.mpr ?_)
  exact List.forall₂_same.mpr fun s hs => Span.reads_write hl (depth + 1) (hspans s hs)

/-- The two fields, written in order, make the spans up. -/
theorem takes_write (hl : l.Sound) {s : Spans} (hs : s.Fits) :
    record.Takes [("spans", writeList l 1 s.spans), ("unit", written s.unit.name)] record.blank
      ⟨some s.spans, some s.unit⟩ :=
  .cons ⟨_, rfl, rfl, (reads_writeList hl 1 hs).map _⟩
    (.cons ⟨_, rfl, rfl, (LengthUnit.reads_name s.unit).map _⟩ (.nil _))

/-- Spans are read as they are written, in every sound layout. -/
theorem reads_write (hl : l.Sound) {s : Spans} (hs : s.Fits) : Reads reader (s.write l) s :=
  (Record.reads_object hl 0 (takes_write hl hs) rfl).map ofDraft

end Spans

/-! ### Accepted spans -/

/-- The length of a span, once it has been read, fits into 64 bits. A draft is a span some of whose
fields have not been read yet. -/
def Span.Draft.Fits (d : Span.Draft) : Prop := ∀ n, d.len = some n → n ≤ greatestWord

/-- Reading a field of a span keeps this: the style has no part in it, and the length fits. -/
theorem Span.record_keeps : Span.record.Keeps Span.Draft.Fits := by
  intro f hf d hd
  rcases List.mem_pair.mp hf with rfl | rfl
  · exact yields_then fun style => yields_pure hd
  · refine yields_bind lengthValue_yields fun n hn => yields_pure fun m hm => ?_
    cases hm
    exact hn

/-- The length of a span that is read fits into 64 bits, however the span was written. -/
theorem Span.reader_yields : Yields Span.reader fun s => s.len ≤ greatestWord := by
  refine yields_bind (Record.read_yields Span.record_keeps nofun) fun d hd => yields_pure ?_
  show d.len.getD 0 ≤ greatestWord
  cases h : d.len with
  | none => exact Nat.zero_le _
  | some n => exact hd n h

namespace Spans

/-- The lengths of the spans that have been read fit into 64 bits. -/
def Draft.Fits (d : Draft) : Prop :=
  ∀ spans, d.spans = some spans → ∀ s ∈ spans, s.len ≤ greatestWord

/-- Reading a field of spans keeps this: the list of spans brings lengths that fit, and the unit
none. -/
theorem record_keeps : record.Keeps Draft.Fits := by
  intro f hf d hd
  rcases List.mem_pair.mp hf with rfl | rfl
  · refine yields_bind (listValue_yields Span.reader_yields) fun spans hspans =>
      yields_pure fun ss hss => ?_
    cases hss
    exact hspans
  · exact yields_then fun unit => yields_pure hd

/-- The lengths of all spans that are read fit into 64 bits. -/
theorem reader_yields : Yields reader Fits := by
  refine yields_bind (Record.read_yields record_keeps nofun) fun d hd => yields_pure ?_
  show ∀ s ∈ d.spans.getD [], s.len ≤ greatestWord
  cases h : d.spans with
  | none => exact List.forall_mem_nil _
  | some spans => exact hd spans h

/-- Whatever text spans are read from, their lengths fit into 64 bits. So they are covered by the
first half. -/
theorem fits_of_ofJson {text : String} {s : Spans} (h : ofJson text = .ok s) : s.Fits := by
  unfold ofJson at h
  split at h
  · rename_i a ha
    cases h
    exact of_run reader_yields ha
  · cases h

/-! ### Round trips -/

/-- Spans are read back in every layout, also with blanks after them. -/
theorem ofJson_write {l : Layout} (hl : l.Sound) {s : Spans} (hs : s.Fits) {ws : List Char}
    (hws : Blank ws) : ofJson (String.ofList (s.write l ++ ws)) = .ok s := by
  rw [ofJson, String.toList_ofList, run_written (reads_write hl hs) hws]

/-- Spans are read back from the compact text. -/
theorem ofJson_toJson {s : Spans} (hs : s.Fits) : ofJson s.toJson = .ok s := by
  have h := ofJson_write Layout.sound_compact hs blank_nil
  rwa [List.append_nil] at h

/-- Spans are read back from the text with one field in a line. -/
theorem ofJson_toPrettyJson {s : Spans} (hs : s.Fits) : ofJson s.toPrettyJson = .ok s := by
  have h := ofJson_write Layout.sound_pretty hs blank_nil
  rwa [List.append_nil] at h

/-- The text that the program prints is read back as well. It ends with a line feed. -/
theorem ofJson_render {s : Spans} (hs : s.Fits) (text : String) :
    ofJson (CommandLine.render true s text) = .ok s := by
  have hnewline : Blank ['\n'] := by simp [Blank, isSpace]
  have h := ofJson_write Layout.sound_pretty hs hnewline
  rwa [String.ofList_append] at h

/-- Spans come back from each text that is written for them. -/
structure RoundTrips (s : Spans) : Prop where
  compact : ofJson s.toJson = .ok s
  pretty : ofJson s.toPrettyJson = .ok s
  printed (text : String) : ofJson (CommandLine.render true s text) = .ok s

/-- Spans with lengths that fit come back. -/
theorem Fits.roundTrips {s : Spans} (hs : s.Fits) : s.RoundTrips :=
  ⟨ofJson_toJson hs, ofJson_toPrettyJson hs, ofJson_render hs⟩

/-- All spans with lengths of 64 bits come back from JSON, and so all that were read from some text,
however it was written. The text may be compact or have a line for each value, and may have what a
line printed adds to it. -/
theorem json_round_trip :
    (∀ s : Spans, (∀ span ∈ s.spans, span.len < 2 ^ 64) → s.RoundTrips) ∧
      ∀ (text : String) (s : Spans), ofJson text = .ok s → s.RoundTrips := by
  constructor
  · intro s hs
    have hfits : s.Fits := fun span hspan => Nat.le_pred_of_lt (hs span hspan)
    exact hfits.roundTrips
  · intro text s h
    exact (fits_of_ofJson h).roundTrips

/-- Spans with characters that have to be escaped, an empty style, and the greatest length. -/
def escapedSpans : Spans where
  spans := [.styled "a\"b\\c\n\x01\x7f\u00e9" (2 ^ 64 - 1), .styled "" 0, .plain 5]
  unit := .utf16

/-- A text with the keys in another order, an unknown key, a list for a record, a key left out, and
an object for a unit. -/
def looseText : String :=
  " \x7b\"unit\":\x7b\"Bytes\":null\x7d,\"x\":[1,\x7b\"y\":\"\\n\"\x7d],"
    ++ "\"spans\":[[\"k\",3],\x7b\"len\":4\x7d]\x7d"

/-- The spans of that text. -/
def looseSpans : Spans := ⟨[.styled "k" 3, .plain 4], .bytes⟩

/-- Both kinds of spans come back: those with anything that has to be escaped, and those that were
read from a text which no program would write. -/
theorem escaped_and_loose_round_trip :
    (∀ span ∈ escapedSpans.spans, span.len < 2 ^ 64) ∧ escapedSpans.RoundTrips ∧
      ofJson looseText = .ok looseSpans ∧ looseSpans.RoundTrips := by
  have hescaped : ∀ span ∈ escapedSpans.spans, span.len < 2 ^ 64 := by decide
  have hloose : ofJson looseText = .ok looseSpans := by decide +kernel
  exact ⟨hescaped, json_round_trip.1 _ hescaped, hloose, json_round_trip.2 _ _ hloose⟩

end Spans

end Highlight
