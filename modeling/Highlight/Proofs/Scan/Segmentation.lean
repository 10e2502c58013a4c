import Highlight.Proofs.Scan.Cover

/-!
# `Highlight.Proofs.Scan.Segmentation`: a scan and its reference segmentation

The matches of a text are a chain: each search begins where the match before it ended. The
segmentation of the text follows from the chain alone. Every match is a segment with the style of
its owner, every maximal stretch without a match a plain one, and nothing else is there
(`IsSegmentation`). This file proves that a scan without merging computes it, for every search
that finds its matches where it was asked to look.

* `IsGap`: a stretch without a match that cannot be made longer.
* `isSegmentation_segmentation`: the recursive form of the segmentation has the right segments.
* `scanFrom_eq_segmentation`: a scan adds the segmentation of the rest of the text to its cover.
* `spansWith_isSegmentation`: the result, read off the spans as byte intervals.

The cover of a scan may stop before the position of its search, namely after empty matches. So
`scanFrom_eq_segmentation` keeps the two apart, and the gap before the next match begins at the
end of the cover.
-/

set_option autoImplicit false

namespace Highlight

/-! ### The chain of matches -/

/-- A search for matches in a text of a certain size. A match that it finds from a position on does
not begin before that position. Such a search cannot fail, and a scan with it always gets on. -/
structure Search (size : Nat) where
  /-- The match that is found from a position on -/
  find : Nat → Option Found
  /-- Matches lie between the position and the end of the text. -/
  bounds : ∀ pos f, find pos = some f → pos ≤ f.start ∧ f.start ≤ f.stop ∧ f.stop ≤ size

namespace Search

variable {size : Nat}

/-- The search in the form that a scan takes. It never fails, so its error can be any. -/
def toFinder (search : Search size) : Finder Error := fun pos => .ok (search.find pos)

/-- The matches from a position on. An empty match is left out, and the search goes on one
character after it. -/
def chain (search : Search size) (pos : Nat) : List Found :=
  if pos < size then
    match h : search.find pos with
    | none => []
    | some f =>
      if f.start < f.stop then f :: search.chain f.stop
      else if f.start < size then search.chain (f.start + 1)
      else []
  else []
termination_by size - pos
decreasing_by
  · have hb := search.bounds pos f h
    omega
  · have hb := search.bounds pos f h
    omega

end Search

/-- The matches begin at `pos` or later, follow each other and are not empty. Between them there may
be any amount of text. -/
def InOrder (size : Nat) : Nat → List Found → Prop
  | pos, [] => pos ≤ size
  | pos, f :: ms => pos ≤ f.start ∧ f.start < f.stop ∧ InOrder size f.stop ms

section InOrder

variable {size : Nat} {ms : List Found}

/-- The position before matches in order is not behind the end of the text. -/
theorem le_of_inOrder {pos : Nat} (h : InOrder size pos ms) : pos ≤ size := by
  induction ms generalizing pos with
  | nil => exact h
  | cons f ms ih =>
      obtain ⟨hstart, hlt, hrest⟩ := h
      have hle := ih hrest
      omega

/-- Matches in order from a position on are so from an earlier one on. Only the first match is bound
to the position. -/
theorem inOrder_mono {pos pos' : Nat} (hle : pos ≤ pos') (h : InOrder size pos' ms) :
    InOrder size pos ms := by
  cases ms with
  | nil => exact Nat.le_trans hle h
  | cons f ms => exact ⟨Nat.le_trans hle h.1, h.2⟩

/-- The matches of a chain are in order. Empty matches are left out of it, and they only move the
next search. -/
theorem inOrder_chain (search : Search size) (pos : Nat) (h : pos ≤ size) :
    InOrder size pos (search.chain pos) := by
  fun_induction Search.chain search pos with
  | case1 pos hlt hnone => exact h
  | case2 pos hlt f hf hne ih =>
      have hb := search.bounds pos f hf
      exact ⟨hb.1, hne, ih hb.2.2⟩
  | case3 pos hlt f hf hempty hstart ih =>
      have hb := search.bounds pos f hf
      exact inOrder_mono (by omega) (ih hstart)
  | case4 pos hlt f hf hempty hstart => exact h
  | case5 pos hge => exact h

end InOrder

/-! ### The reference segmentation -/

/-- A position lies in a match. The end of a match does not lie in it. -/
def Covered (ms : List Found) (i : Nat) : Prop :=
  ∃ f ∈ ms, f.start ≤ i ∧ i < f.stop

/-- A stretch of the text from `lo` on that is not empty, has no position in a match, and cannot be
made longer at either end. It speaks of positions and matches only, not of segments. -/
structure IsGap (lo size : Nat) (ms : List Found) (a b : Nat) : Prop where
  nonempty : a < b
  lower : lo ≤ a
  upper : b ≤ size
  free : ∀ i, a ≤ i → i < b → ¬ Covered ms i
  left : a = lo ∨ Covered ms (a - 1)
  right : b = size ∨ Covered ms b

/-- The segment of a match. -/
def Found.toSegment (styleOf : Option Nat → String) (f : Found) : Segment :=
  ⟨some (styleOf f.owner), f.start, f.stop⟩

/-- The segments of a text from `lo` on are its matches and the gaps between them. -/
structure IsSegmentation (styleOf : Option Nat → String) (lo size : Nat) (ms : List Found)
    (ss : List Segment) : Prop where
  /-- They follow each other and none is empty. -/
  tiles : Tiles lo size ss
  /-- Those with a style are the matches in their order. -/
  styled : ss.filter (·.style.isSome) = ms.map (·.toSegment styleOf)
  /-- Those without are the gaps. -/
  plain : ∀ a b, ⟨none, a, b⟩ ∈ ss ↔ IsGap lo size ms a b

/-- The plain segment between two positions, unless it is empty. Two matches that touch have no
segment between them. -/
def gap (a b : Nat) : List Segment :=
  if a < b then [⟨none, a, b⟩] else []

/-- The segments of a text from `lo` on, by recursion over its matches: the gap before the first
match, the match, and then those from its end on. -/
def segmentation (styleOf : Option Nat → String) (size : Nat) : Nat → List Found → List Segment
  | lo, [] => gap lo size
  | lo, f :: ms => gap lo f.start ++ f.toSegment styleOf :: segmentation styleOf size f.stop ms

section Segmentation

variable {styleOf : Option Nat → String} {size : Nat}

/-- Without matches, no position is covered. -/
@[simp] theorem covered_nil {i : Nat} : ¬ Covered [] i := by
  rintro ⟨f, hf, _⟩
  exact absurd hf List.not_mem_nil

/-- A position lies in the first match, or in a later one. -/
@[simp] theorem covered_cons {f : Found} {ms : List Found} {i : Nat} :
    Covered (f :: ms) i ↔ (f.start ≤ i ∧ i < f.stop) ∨ Covered ms i := by
  simp [Covered]

/-- Matches in order cover nothing before the position where they begin. The induction is on the
matches, each of which begins where the one before it ends, or later. -/
theorem le_of_covered {pos i : Nat} {ms : List Found} (h : InOrder size pos ms)
    (hi : Covered ms i) : pos ≤ i := by
  induction ms generalizing pos with
  | nil => exact absurd hi covered_nil
  | cons f ms ih =>
      obtain ⟨hstart, hlt, hrest⟩ := h
      rcases covered_cons.mp hi with hf | hi
      · omega
      · have hle := ih hrest hi
        omega

/-- The one segment of a gap, with both of its ends. The list has no other plain segment. -/
@[simp] theorem mem_gap {a b x y : Nat} :
    (⟨none, x, y⟩ : Segment) ∈ gap a b ↔ a < b ∧ x = a ∧ y = b := by
  unfold gap
  split <;> simp_all

/-- A gap tiles what is between its ends, also if that is nothing. -/
theorem tiles_gap {a b : Nat} (h : a ≤ b) : Tiles a b (gap a b) := by
  unfold gap
  split
  · rename_i hlt
    exact ⟨rfl, hlt, rfl⟩
  · show a = b
    omega

/-- A gap has no segment with a style. -/
theorem filter_gap (a b : Nat) : (gap a b).filter (·.style.isSome) = [] := by
  unfold gap
  split <;> rfl

/-- Without matches, the only gap is the whole text from `lo` on, if there is any of it. An empty
stretch is no gap. -/
theorem isGap_nil {lo a b : Nat} : IsGap lo size [] a b ↔ lo < size ∧ a = lo ∧ b = size := by
  constructor
  · intro h
    have hl : a = lo := h.left.resolve_right covered_nil
    have hr : b = size := h.right.resolve_right covered_nil
    have hlt := h.nonempty
    exact ⟨by omega, hl, hr⟩
  · rintro ⟨hlt, rfl, rfl⟩
    exact ⟨hlt, Nat.le_refl _, Nat.le_refl _, fun _ _ _ => covered_nil, Or.inl rfl, Or.inl rfl⟩

section Cons

variable {lo a b i : Nat} {f : Found} {ms : List Found}

/-- Nothing before the first match is covered, by that match or by a later one. -/
theorem start_le_of_covered (h : InOrder size lo (f :: ms)) (hi : Covered (f :: ms) i) :
    f.start ≤ i :=
  le_of_covered (show InOrder size f.start (f :: ms) from ⟨Nat.le_refl _, h.2⟩) hi

/-- From its end on, the first match covers nothing, so only the later matches do. -/
theorem covered_of_covered_cons (hi : Covered (f :: ms) i) (hle : f.stop ≤ i) : Covered ms i := by
  rcases covered_cons.mp hi with hf | hi
  · omega
  · exact hi

/-- What lies before the first match is a gap. It ends where the match begins, so it cannot be
longer. -/
theorem isGap_first (h : InOrder size lo (f :: ms)) (hlo : lo < f.start) :
    IsGap lo size (f :: ms) lo f.start := by
  have hsize := le_of_inOrder h.2.2
  have hlt := h.2.1
  refine ⟨hlo, Nat.le_refl _, by omega, ?_, Or.inl rfl, Or.inr ?_⟩
  · intro i _ hi hc
    have hle := start_le_of_covered h hc
    omega
  · exact covered_cons.mpr (Or.inl ⟨Nat.le_refl _, hlt⟩)

/-- A gap between the later matches is one between all of them. It can begin at the end of the first
match, and then it is that match which keeps it from being longer. -/
theorem isGap_later (h : InOrder size lo (f :: ms)) (hgap : IsGap f.stop size ms a b) :
    IsGap lo size (f :: ms) a b := by
  obtain ⟨hstart, hlt, _⟩ := h
  have hlower := hgap.lower
  refine ⟨hgap.nonempty, by omega, hgap.upper, ?_, Or.inr ?_, ?_⟩
  · intro i hi hi' hc
    exact hgap.free i hi hi' (covered_of_covered_cons hc (by omega))
  · -- Its left end was the end of the first match, whose last position is covered now.
    rcases hgap.left with rfl | hl
    · exact covered_cons.mpr (Or.inl ⟨by omega, by omega⟩)
    · exact covered_cons.mpr (Or.inr hl)
  · rcases hgap.right with hr | hr
    · exact Or.inl hr
    · exact Or.inr (covered_cons.mpr (Or.inr hr))

/-- There is only one gap before the first match. A shorter stretch could be made longer, to the
left or to the right. -/
theorem eq_of_isGap_before (h : InOrder size lo (f :: ms)) (hgap : IsGap lo size (f :: ms) a b)
    (hb : b ≤ f.start) : a = lo ∧ b = f.start := by
  have hsize := le_of_inOrder h.2.2
  have hlt := h.2.1
  have hne := hgap.nonempty
  constructor
  · rcases hgap.left with ha | ha
    · exact ha
    · have hle := start_le_of_covered h ha
      omega
  · rcases hgap.right with hr | hr
    · omega
    · have hle := start_le_of_covered h hr
      omega

/-- A gap that is not before the first match is one between the later matches. Such a gap does not
contain the first match or a part of it. -/
theorem isGap_of_isGap_cons (h : InOrder size lo (f :: ms)) (hgap : IsGap lo size (f :: ms) a b)
    (hb : f.start < b) : IsGap f.stop size ms a b := by
  obtain ⟨hstart, hlt, _⟩ := h
  have hne := hgap.nonempty
  -- The gap does not contain the start of the match, nor does it begin inside the match.
  have hfree : ¬ (a ≤ f.start ∧ f.start < b) := fun hi =>
    hgap.free f.start hi.1 hi.2 (covered_cons.mpr (Or.inl ⟨Nat.le_refl _, hlt⟩))
  have ha : f.stop ≤ a := by
    refine Nat.le_of_not_lt fun hinside => hgap.free a (Nat.le_refl _) hne ?_
    exact covered_cons.mpr (Or.inl ⟨by omega, hinside⟩)
  refine ⟨hne, ha, hgap.upper, ?_, ?_, ?_⟩
  · exact fun i hi hi' hc => hgap.free i hi hi' (covered_cons.mpr (Or.inr hc))
  · rcases hgap.left with hl | hl
    · omega
    · by_cases heq : a = f.stop
      · exact Or.inl heq
      · exact Or.inr (covered_of_covered_cons hl (by omega))
  · rcases hgap.right with hr | hr
    · exact Or.inl hr
    · exact Or.inr (covered_of_covered_cons hr (by omega))

/-- A gap lies before the first match, or after it. This is the step by which the gaps of a text
follow the recursion of `segmentation`. -/
theorem isGap_cons (h : InOrder size lo (f :: ms)) :
    IsGap lo size (f :: ms) a b ↔
      (lo < f.start ∧ a = lo ∧ b = f.start) ∨ IsGap f.stop size ms a b := by
  constructor
  · intro hgap
    by_cases hb : b ≤ f.start
    · obtain ⟨rfl, rfl⟩ := eq_of_isGap_before h hgap hb
      exact Or.inl ⟨hgap.nonempty, rfl, rfl⟩
    · exact Or.inr (isGap_of_isGap_cons h hgap (Nat.lt_of_not_le hb))
  · rintro (⟨hlo, rfl, rfl⟩ | hgap)
    · exact isGap_first h hlo
    · exact isGap_later h hgap

end Cons

/-- The recursive form has the segments of the matches and of the gaps, and no others. So the
recursion and the three conditions of `IsSegmentation` say the same. -/
theorem isSegmentation_segmentation {lo : Nat} {ms : List Found} (h : InOrder size lo ms) :
    IsSegmentation styleOf lo size ms (segmentation styleOf size lo ms) := by
  induction ms generalizing lo with
  | nil =>
      refine ⟨tiles_gap h, filter_gap lo size, fun a b => ?_⟩
      rw [segmentation, mem_gap, isGap_nil]
  | cons f ms ih =>
      have hf := h
      obtain ⟨hstart, hlt, hrest⟩ := hf
      have hms := ih hrest
      constructor
      · rw [segmentation, tiles_append]
        exact ⟨f.start, tiles_gap hstart, rfl, hlt, hms.tiles⟩
      · rw [segmentation, List.filter_append, filter_gap, List.nil_append, List.map_cons]
        rw [List.filter_cons_of_pos (by rfl), hms.styled]
      · intro a b
        -- The segment of the match has a style, so it is none of the plain ones.
        have hne : (⟨none, a, b⟩ : Segment) ≠ f.toSegment styleOf := by
          simp [Found.toSegment]
        rw [isGap_cons h, ← hms.plain, segmentation, List.mem_append, mem_gap, List.mem_cons]
        simp [hne]

/-! ### The scan -/

/-- Without merging, covering adds at most one segment, and it adds none if all was covered before.
The new one begins where the cover has ended. -/
theorem toList_extend (c : Cover) (stop : Nat) (style : Option String) :
    (c.extend false stop style).toList
      = c.toList ++ if c.stop < stop then [⟨style, c.stop, stop⟩] else [] := by
  rcases c.extend_cases false stop style with
    ⟨hle, heq⟩ | ⟨_, _, _, _, hmerge, _⟩ | ⟨hlt, _, heq⟩
  · rw [heq, if_neg (Nat.not_lt.mpr hle), List.append_nil]
  · cases hmerge
  · rw [heq, if_pos hlt, Cover.toList, List.reverse_cons]
    rfl

/-- A match that begins after the cover adds the gap before it and itself. The cover then ends at
the end of the match. -/
theorem toList_record (styleOf : Option Nat → String) {c : Cover} {f : Found}
    (hlt : f.start < f.stop) (hle : c.stop ≤ f.start) :
    (c.record false styleOf f).toList = c.toList ++ (gap c.stop f.start ++ [f.toSegment styleOf])
      ∧ (c.record false styleOf f).stop = f.stop := by
  have hstop : (c.extend false f.start none).stop = f.start := by
    rw [Cover.stop_extend, Nat.max_eq_right hle]
  rw [Cover.record, if_pos hlt]
  constructor
  · rw [toList_extend, toList_extend, hstop, if_pos hlt, List.append_assoc]
    rfl
  · rw [Cover.stop_extend, hstop, Nat.max_eq_right (Nat.le_of_lt hlt)]

/-- A scan ends, and together with the plain rest it adds the segmentation of what its cover lacks.
The induction is along the chain of matches, which has a case for each way on. -/
theorem scanFrom_eq_segmentation (styleOf : Option Nat → String) (search : Search size)
    (stalled : Error) (pos : Nat) (c : Cover) (hc : c.stop ≤ pos) :
    ∃ c', scanFrom search.toFinder stalled size false styleOf pos c = .ok c' ∧
      (c'.extend false size none).toList
        = c.toList ++ segmentation styleOf size c.stop (search.chain pos) := by
  fun_induction Search.chain search pos generalizing c with
  | case1 pos hlt hnone =>
      refine ⟨c, ?_, toList_extend c size none⟩
      rw [scanFrom, if_pos hlt, Search.toFinder, hnone]
  | case2 pos hlt f hf hne ih =>
      have hb := search.bounds pos f hf
      -- The cover ends at the match now, and the next search begins there too.
      have hrec := toList_record styleOf hne (Nat.le_trans hc hb.1)
      obtain ⟨c', hscan, hc'⟩ := ih (c.record false styleOf f) (Nat.le_of_eq hrec.2)
      refine ⟨c', ?_, ?_⟩
      · have hresume : f.resume? size = some f.stop := if_pos hne
        rw [scanFrom, if_pos hlt, Search.toFinder, hf]
        simp only [hresume]
        rw [if_pos (by omega)]
        exact hscan
      · rw [hc', hrec.1, hrec.2, segmentation]
        simp
  | case3 pos hlt f hf hempty hstart ih =>
      -- An empty match leaves the cover as it is, but moves the search.
      have hb := search.bounds pos f hf
      have heq : f.stop = f.start := by omega
      have hrec : c.record false styleOf f = c := if_neg hempty
      have hresume : f.resume? size = some (f.start + 1) := by
        rw [Found.resume?, if_neg hempty, heq, if_pos hstart]
      obtain ⟨c', hscan, hc'⟩ := ih c (by omega)
      refine ⟨c', ?_, hc'⟩
      rw [scanFrom, if_pos hlt, Search.toFinder, hf]
      simp only [hresume]
      rw [if_pos (by omega), hrec]
      exact hscan
  | case4 pos hlt f hf hempty hstart =>
      have hb := search.bounds pos f hf
      have hresume : f.resume? size = none := by
        rw [Found.resume?, if_neg hempty, if_neg (by omega)]
      refine ⟨c, ?_, toList_extend c size none⟩
      rw [scanFrom, if_pos hlt, Search.toFinder, hf]
      simp only [hresume]
  | case5 pos hge =>
      refine ⟨c, ?_, toList_extend c size none⟩
      rw [scanFrom, if_neg hge]

end Segmentation

/-! ### Byte intervals -/

/-- The byte at which a position of a text lies, as the number of bytes before it. -/
def byteAt (text : String) (pos : Nat) : Nat :=
  (String.ofList (text.toList.take pos)).utf8ByteSize

/-- A segment with bytes in place of positions. The characters between its ends stay the same. -/
def Segment.inBytes (text : String) (s : Segment) : Segment :=
  ⟨s.style, byteAt text s.start, byteAt text s.stop⟩

/-- The byte intervals of the pieces of a text, each beginning where the one before it ends. They
are computed from the pieces, without the segments that these come from. -/
def intervalsFrom : Nat → List (String × Option String) → List Segment
  | _, [] => []
  | pos, (piece, style) :: pieces =>
    ⟨style, pos, pos + piece.utf8ByteSize⟩ :: intervalsFrom (pos + piece.utf8ByteSize) pieces

/-- The byte intervals of spans in a text. -/
def Spans.intervals (s : Spans) (text : String) : List Segment :=
  intervalsFrom 0 (s.slices text)

section Intervals

variable {text : String}

/-- From its start to its end, a segment takes as many bytes as its characters do. What stands
before its end is what stands before its start, and its own characters. -/
theorem byteAt_stop (text : String) {s : Segment} (h : s.start ≤ s.stop) :
    byteAt text s.stop
      = byteAt text s.start + (String.ofList (s.chars text.toList.toArray)).utf8ByteSize := by
  have htake : text.toList.take s.stop
      = text.toList.take s.start ++ s.chars text.toList.toArray := by
    rw [s.chars_eq, ← List.take_add, Nat.add_sub_of_le h]
  rw [byteAt, htake, String.ofList_append, String.utf8ByteSize_append]
  rfl

/-- The pieces of a tiling have the bytes of its segments. Both sides begin at the byte of the start
of the tiling and get on by the bytes of each segment. -/
theorem intervalsFrom_of_tiles {a : Nat} {ss : List Segment} (h : Tiles a text.length ss) :
    intervalsFrom (byteAt text a)
        (ss.map fun s => (String.ofList (s.chars text.toList.toArray), s.style))
      = ss.map (·.inBytes text) := by
  induction ss generalizing a with
  | nil => rfl
  | cons s ss ih =>
      obtain ⟨rfl, hlt, hrest⟩ := h
      have hstop := byteAt_stop text (Nat.le_of_lt hlt)
      rw [List.map_cons, List.map_cons, intervalsFrom, ← hstop, ih hrest]
      rfl

/-- The spans of a tiling, as byte intervals, are its segments. An empty text has one empty
interval, that of its one span. -/
theorem intervals_of_tiles (unit : LengthUnit) {ss : List Segment}
    (h : Tiles 0 text.length ss) :
    (Spans.ofSegments unit text.toList.toArray ss).intervals text
      = if text = "" then [⟨none, 0, 0⟩] else ss.map (·.inBytes text) := by
  have hsize : text.toList.toArray.size = text.length := by
    rw [List.size_toArray, String.length_toList]
  cases ss with
  | nil =>
      have hempty : text = "" := by
        rw [← String.toList_eq_nil_iff, ← List.length_eq_zero_iff, String.length_toList]
        exact h.symm
      subst hempty
      cases unit <;> rfl
  | cons s ss =>
      have hne : text ≠ "" := by
        rintro rfl
        have hb := bounds_of_tiles h (s := s) List.mem_cons_self
        have hzero : "".length = 0 := rfl
        omega
      -- The pieces are those of the segments, whatever the unit of the spans is.
      have hslices := slicesFrom_of_tiles text.toList.toArray unit (hsize ▸ h) []
      rw [List.drop_zero, List.reverse_nil, List.nil_append] at hslices
      rw [if_neg hne, Spans.intervals, Spans.slices]
      exact (congrArg (intervalsFrom 0) hslices).trans (intervalsFrom_of_tiles h)

end Intervals

/-- Without merging, a scan ends, and its spans are the segmentation of the text by the chain of
matches from its beginning. A chain comes to an end, since no match begins before the position of
its search, and an empty match is stepped over.

In bytes, the intervals of the spans are those of the segments. So gaps are as long as they can be,
and matches are neither cut nor joined. -/
theorem spansWith_isSegmentation (p : Pattern) (text : String) (options : Options)
    (search : Search text.length) (hmerge : options.merge = false) :
    ∃ s ss, p.spansWith search.toFinder text options = .ok s ∧
      IsSegmentation (p.styleOf options.fallback) 0 text.length (search.chain 0) ss ∧
      s.intervals text
        = if text = "" then [⟨none, 0, 0⟩] else ss.map (·.inBytes text) := by
  obtain ⟨c, hscan, hc⟩ := scanFrom_eq_segmentation (p.styleOf options.fallback) search
    (.endless p.language) 0 .empty (Nat.le_refl 0)
  -- The cover is empty at first, so what the scan adds is the segmentation of the whole text.
  have hseg : IsSegmentation (p.styleOf options.fallback) 0 text.length (search.chain 0)
      (c.extend false text.length none).toList := by
    rw [hc]
    exact isSegmentation_segmentation (inOrder_chain search 0 (Nat.zero_le _))
  have hsize : text.toList.toArray.size = text.length := by
    rw [List.size_toArray, String.length_toList]
  refine ⟨_, _, ?_, hseg, intervals_of_tiles options.unit hseg.tiles⟩
  simp only [Pattern.spansWith, segments, hsize, hmerge, hscan]

/-- A pattern with one rule, of the style `letter`. -/
def letters : Pattern where
  language := "letters"
  source := "(?<letter>[ab])"
  program := ⟨.capture 1 .empty, #[none, some .empty], [], [], [("letter".toList, [1])]⟩
  rules := [⟨"letter", 1⟩]

/-- A search that finds the first character, then nothing before the second one, and then the
last character without an owner. -/
def sparse : Search "aé😀b".length where
  find
    | 0 => some ⟨some 0, 0, 1⟩
    | 1 => some ⟨some 0, 1, 1⟩
    | 2 => some ⟨none, 3, 4⟩
    | _ => none
  bounds := by
    intro pos f hf
    split at hf <;> cases hf <;> decide

/-- The empty match splits no gap: both characters without a match are in one interval. In bytes the
interval is longer, as they take two and four of them. -/
theorem letters_isSegmentation :
    ∃ s ss, letters.spansWith sparse.toFinder "aé😀b" ⟨.utf16, false, "text", false⟩ = .ok s ∧
      IsSegmentation (letters.styleOf "text") 0 4 [⟨some 0, 0, 1⟩, ⟨none, 3, 4⟩] ss ∧
      s.intervals "aé😀b" = ss.map (·.inBytes "aé😀b") ∧
      s.intervals "aé😀b" = [⟨some "letter", 0, 1⟩, ⟨none, 1, 7⟩, ⟨some "text", 7, 8⟩] := by
  obtain ⟨s, ss, hs, hss, hbytes⟩ :=
    spansWith_isSegmentation letters "aé😀b" ⟨.utf16, false, "text", false⟩ sparse rfl
  have hchain : sparse.chain 0 = [⟨some 0, 0, 1⟩, ⟨none, 3, 4⟩] := by cbv
  have hspans : letters.spansWith sparse.toFinder "aé😀b" ⟨.utf16, false, "text", false⟩
      = .ok ⟨[.styled "letter" 1, .plain 3, .styled "text" 1], .utf16⟩ := by cbv
  obtain rfl : _ = s := Except.ok.inj (hspans.symm.trans hs)
  rw [hchain] at hss
  exact ⟨_, ss, hs, hss, hbytes, by cbv⟩

end Highlight
