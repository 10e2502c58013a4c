import Highlight.Proofs.Scan.Partition
import Highlight.Proofs.Scan.Segmentation

/-!
# `Highlight.Proofs.Scan.Units`: one cut of a text in every unit

A scan works on positions and does not know the unit of the lengths. The unit comes in twice
afterwards, in opposite directions: `LengthUnit.measure` gives a span its length, and
`LengthUnit.reach` finds the end of a piece from the length of its span.

`spans_in_every_unit` is the main statement. A scan that ends gives spans in every unit, and all
of them cut the text into the same pieces with the same styles (`Spans.CutsInto`), namely along
the segments of the scan. Only the lengths differ, and each is the measure of its piece. A scan
that does not end gives spans in no unit.
-/

set_option autoImplicit false

namespace Highlight

/-- The segments that a scan of a text gives. They are all that the spans in the different units
have in common, and the unit is not among its arguments. -/
def Pattern.segmentsOf (p : Pattern) (text : String) (options : Options) :
    Except Error (List Segment) :=
  segments (p.find text.toList.toArray) (.endless p.language) text.toList.toArray.size
    options.merge (p.styleOf options.fallback)

/-- The pieces of a text along segments, each with its style. An empty text is one plain piece, as
it has one plain span. -/
def piecesOf (text : String) (ss : List Segment) : List (String × Option String) :=
  if text = "" then [("", none)]
  else ss.map fun s => (String.ofList (s.chars text.toList.toArray), s.style)

/-- Spans of a text that stand for its pieces in a unit. Each length is determined by its piece, and
the pieces can be found again from the lengths. -/
structure Spans.CutsInto (s : Spans) (unit : LengthUnit) (text : String)
    (pieces : List (String × Option String)) : Prop where
  /-- The lengths are in the unit. -/
  inUnit : s.unit = unit
  /-- There is a span for each piece. It has the style of the piece, and its length is the
  measure of the piece. -/
  spans : s.spans = pieces.map fun piece => ⟨piece.2, unit.measure piece.1.toList⟩
  /-- Cutting the text along the spans gives the pieces. -/
  slices : s.slices text = pieces

section

variable {text : String} {ss : List Segment}

/-- The spans of a tiling stand for its pieces. Measuring makes lengths of the pieces, and the cut
along the spans takes that back. -/
theorem cutsInto_ofSegments (unit : LengthUnit) (h : Tiles 0 text.toList.toArray.size ss) :
    (Spans.ofSegments unit text.toList.toArray ss).CutsInto unit text (piecesOf text ss) := by
  -- Without segments there is no text, and one span of length zero.
  by_cases hne : ss = []
  · subst hne
    obtain rfl := eq_empty_of_tiles_nil h
    exact ⟨rfl, rfl, by cases unit <;> rfl⟩
  · have htext : text ≠ "" := by
      rintro rfl
      obtain ⟨s, hs⟩ := List.exists_mem_of_ne_nil ss hne
      have hb := bounds_of_tiles h hs
      exact Nat.not_lt_zero _ (Nat.lt_of_lt_of_le hb.2.1 hb.2.2)
    have hpieces : piecesOf text ss
        = ss.map fun s => (String.ofList (s.chars text.toList.toArray), s.style) :=
      if_neg htext
    have hspans := spans_ofSegments unit text.toList.toArray hne
    refine ⟨rfl, ?_, ?_⟩
    · rw [hspans, hpieces, List.map_map]
      refine List.map_congr_left fun s _ => ?_
      simp [Segment.toSpan]
    · -- The segments tile the text, so cutting by their lengths gives their characters.
      have hslices := slicesFrom_of_tiles text.toList.toArray unit h []
      rw [List.drop_zero, List.reverse_nil, List.nil_append] at hslices
      rw [Spans.slices, hspans, hpieces]
      exact hslices

/-- Whether a scan ends, and with which segments, does not depend on the unit. The unit comes in
when spans are made of the segments. -/
theorem Pattern.spans_with_unit (p : Pattern) (text : String) (options : Options)
    (unit : LengthUnit) :
    p.spans text { options with unit := unit }
      = (p.segmentsOf text options).map (.ofSegments unit text.toList.toArray) := by
  simp only [spans, spansWith, segmentsOf]
  cases segments (p.find text.toList.toArray) (.endless p.language) text.toList.toArray.size
    options.merge (p.styleOf options.fallback) <;> rfl

end

/-- The spans of a text in all units cut it into the same pieces with the same styles, which lie
where the segments of the scan do, and each length is the measure of its piece. Without an end of
the scan there are no spans in any unit. -/
theorem spans_in_every_unit (p : Pattern) (text : String) (options : Options) :
    (∃ ss, p.segmentsOf text options = .ok ss ∧
      ∀ unit, ∃ s, p.spans text { options with unit := unit } = .ok s ∧
        s.CutsInto unit text (piecesOf text ss) ∧
        s.intervals text = if text = "" then [⟨none, 0, 0⟩] else ss.map (·.inBytes text)) ∨
    ∃ e, p.segmentsOf text options = .error e ∧
      ∀ unit, p.spans text { options with unit := unit } = .error e := by
  cases hscan : p.segmentsOf text options with
  | error e =>
      refine Or.inr ⟨e, rfl, fun unit => ?_⟩
      rw [p.spans_with_unit, hscan]
      rfl
  | ok ss =>
      have htiles := (segments_sound (p.find_inBounds text.toList.toArray) hscan).1
      have hlength : Tiles 0 text.length ss := by
        rwa [List.size_toArray, String.length_toList] at htiles
      -- The segments are the same for all units, so they are chosen before the unit is.
      refine Or.inl ⟨ss, rfl, fun unit => ⟨.ofSegments unit text.toList.toArray ss, ?_, ?_, ?_⟩⟩
      · rw [p.spans_with_unit, hscan]
        rfl
      · exact cutsInto_ofSegments unit htiles
      · exact intervals_of_tiles unit hlength

end Highlight
