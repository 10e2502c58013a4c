import Highlight.Proofs.LengthUnit
import Highlight.Scan
import Mathlib

/-!
# `Highlight.Proofs.Scan.Tiling`: segments without gaps

`Tiles a b ss` says that the segments `ss` go from the position `a` to the position `b` without
a gap, an overlap or an empty segment. Everything that a scan promises about its spans is read
off such a tiling:

* `flatMap_chars_of_tiles`: the characters of the segments, one after another, are the text
  from `a` to `b`.
* `measure_of_tiles`: the lengths of their spans add up to the measure of that text.
* `slicesFrom_of_tiles`: cutting the text along the spans gives the segments back. The cut does
  not know the segments, only the lengths, and finds each end by `LengthUnit.reach`.
-/

set_option autoImplicit false

namespace Highlight

/-- The segments go from `a` to `b`, each beginning where the one before it ends, and none of them
is empty. It is a recursion over the list and no statement about pairs of neighbours, so that proofs
by induction can take it apart at the front. -/
def Tiles : Nat → Nat → List Segment → Prop
  | a, b, [] => a = b
  | a, b, s :: ss => s.start = a ∧ s.start < s.stop ∧ Tiles s.stop b ss

/-! ### Tilings -/

/-- Nothing is tiled by no segments: the two ends are the same. -/
@[simp] theorem tiles_nil {a b : Nat} : Tiles a b [] ↔ a = b := Iff.rfl

/-- The first segment begins at the start of the tiling. What follows it is a tiling of the rest. -/
@[simp] theorem tiles_cons {a b : Nat} {s : Segment} {ss : List Segment} :
    Tiles a b (s :: ss) ↔ s.start = a ∧ s.start < s.stop ∧ Tiles s.stop b ss := Iff.rfl

/-- A tiling can be cut anywhere, and two tilings that meet make one. This is what a scan needs,
since it adds its segments at the end of the list and not at the front. -/
theorem tiles_append {a b : Nat} {xs ys : List Segment} :
    Tiles a b (xs ++ ys) ↔ ∃ m, Tiles a m xs ∧ Tiles m b ys := by
  induction xs generalizing a with
  | nil => simp
  | cons x xs ih =>
      rw [List.cons_append, tiles_cons, ih]
      -- The position where the two parts meet is the same in both forms.
      constructor
      · rintro ⟨hstart, hlt, m, hxs, hys⟩
        exact ⟨m, ⟨hstart, hlt, hxs⟩, hys⟩
      · rintro ⟨m, ⟨hstart, hlt, hxs⟩, hys⟩
        exact ⟨hstart, hlt, m, hxs, hys⟩

/-- The end of a tiling is not before its start, since no segment goes back. -/
theorem le_of_tiles {a b : Nat} {ss : List Segment} (h : Tiles a b ss) : a ≤ b := by
  induction ss generalizing a with
  | nil => exact Nat.le_of_eq h
  | cons s ss ih =>
      obtain ⟨hstart, hlt, hrest⟩ := h
      have hle := ih hrest
      omega

/-- A segment of a tiling is not empty and lies inside it. All bounds that are needed of single
segments are read off this lemma. -/
theorem bounds_of_tiles {a b : Nat} {ss : List Segment} (h : Tiles a b ss) {s : Segment}
    (hs : s ∈ ss) : a ≤ s.start ∧ s.start < s.stop ∧ s.stop ≤ b := by
  induction ss generalizing a with
  | nil => exact absurd hs List.not_mem_nil
  | cons x xs ih =>
      obtain ⟨hstart, hlt, hrest⟩ := h
      have hle := le_of_tiles hrest
      -- The first segment begins at the start. The others begin later, by induction.
      rcases List.mem_cons.mp hs with rfl | hs
      · exact ⟨Nat.le_of_eq hstart.symm, hlt, hle⟩
      · have hx := ih hrest hs
        exact ⟨by omega, hx.2⟩

/-! ### The text of a tiling -/

section Text

variable (text : Array Char)

/-- The characters of a segment are the text between its ends, as a list. Cuts of a list have more
lemmas than those of an array. -/
theorem Segment.chars_eq (s : Segment) :
    s.chars text = (text.toList.drop s.start).take (s.stop - s.start) := by
  unfold Segment.chars
  rw [Array.toList_extract, List.extract_eq_take_drop]

/-- A segment inside the text has as many characters as its ends are apart. Beyond the end of the
text it would have fewer. -/
theorem Segment.length_chars {s : Segment} (h : s.stop ≤ text.size) :
    (s.chars text).length = s.stop - s.start := by
  rw [s.chars_eq, List.length_take, List.length_drop, Array.length_toList]
  omega

/-- The text from the start of a segment on is that segment and the text from its end on. It is the
step of all inductions over a tiling of a text. -/
theorem Segment.drop_start {s : Segment} (h : s.start ≤ s.stop) :
    text.toList.drop s.start = s.chars text ++ text.toList.drop s.stop := by
  have hsplit := List.take_append_drop (s.stop - s.start) (text.toList.drop s.start)
  rw [List.drop_drop, Nat.add_sub_of_le h] at hsplit
  rw [s.chars_eq, hsplit]

/-- The characters of a tiling are the text that it covers. Nothing of it is lost, and nothing comes
twice. -/
theorem flatMap_chars_of_tiles {a : Nat} {ss : List Segment} (h : Tiles a text.size ss) :
    ss.flatMap (·.chars text) = text.toList.drop a := by
  induction ss generalizing a with
  | nil =>
      rw [tiles_nil] at h
      rw [List.flatMap_nil, h, ← Array.length_toList, List.drop_length]
  | cons s ss ih =>
      obtain ⟨rfl, hlt, hrest⟩ := h
      rw [List.flatMap_cons, ih hrest, ← Segment.drop_start text (Nat.le_of_lt hlt)]

variable (unit : LengthUnit)

/-- The lengths of the spans of a tiling add up to the measure of the text that it covers, since the
measure of a text is the sum of those of its parts. -/
theorem measure_of_tiles {a : Nat} {ss : List Segment} (h : Tiles a text.size ss) :
    ((ss.map (·.toSpan unit text)).map (·.len)).sum = unit.measure (text.toList.drop a) := by
  rw [← flatMap_chars_of_tiles text h]
  -- From here on it is a fact about any segments, and the induction must not carry the tiling
  -- along.
  clear h
  induction ss with
  | nil => rfl
  | cons s ss ih =>
      rw [List.map_cons, List.map_cons, List.sum_cons, ih, List.flatMap_cons,
        LengthUnit.measure_append]
      rfl

/-- Cutting the text along the spans of a tiling gives the segments back. The cut knows only the
length of each span, and `LengthUnit.reach` finds the end of the segment again. -/
theorem slicesFrom_of_tiles {a : Nat} {ss : List Segment} (h : Tiles a text.size ss)
    (before : List (String × Option String)) :
    Spans.slicesFrom unit before (ss.map (·.toSpan unit text)) (text.toList.drop a)
      = before.reverse ++ ss.map fun s => (String.ofList (s.chars text), s.style) := by
  induction ss generalizing a before with
  | nil => simp [Spans.slicesFrom]
  | cons s ss ih =>
      obtain ⟨rfl, hlt, hrest⟩ := h
      have hcut := Segment.drop_start text (Nat.le_of_lt hlt)
      -- The length of a span is the measure of its segment, and reaching inverts measuring.
      have hreach : unit.reach (s.toSpan unit text).len (text.toList.drop s.start)
          = (s.chars text).length := by
        rw [hcut]
        exact unit.reach_measure_append _ _
      rw [List.map_cons, Spans.slicesFrom]
      simp only [hreach]
      rw [hcut, List.take_left, List.drop_left, ih hrest]
      simp [Segment.toSpan]

end Text

end Highlight
