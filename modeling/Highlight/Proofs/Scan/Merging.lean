import Highlight.Proofs.Scan.Partition
import Mathlib.Data.List.SplitBy

/-!
# `Highlight.Proofs.Scan.Merging`: merging in a scan and afterwards

With merging, a scan lets its latest segment grow when the next one has the same style. Nothing
else is looked at, so what has been merged depends on the order in which segments come up: matches
of several rules, gaps between them, empty matches.

`Spans.coalesce` says what is meant, without a scan: each maximal run of neighbours of the same
style becomes one span, with their lengths together. `spans_merged` is the main statement. The
spans with merging are those without it after coalescing.

Both scans make the same searches, so they are compared step by step. `Runs` are lists of spans of
the same style, one list after another, and neighbouring lists differ in style. `Cover.Merged` says
that what has been covered without merging consists of such runs, and that there is one segment
for each run with merging. What one step does to the two is `merged_extend`, and `merged_scanFrom`
carries it along the scan.
-/

set_option autoImplicit false

namespace Highlight

namespace Span

/-- Whether two spans have the same style. Two plain spans have. -/
def sameStyle (a b : Span) : Bool := a.style == b.style

/-- One span for a run of spans of the same style: that style, and their lengths together. The style
is that of the first span, so it means something for other lists of spans too. -/
def ofRun (run : List Span) : Span := ⟨run.head?.bind (·.style), (run.map (·.len)).sum⟩

end Span

/-- The spans with each maximal run of neighbours of the same style made one span. It looks at the
list of spans only, and so says what merging is without a scan. -/
def Spans.coalesce (s : Spans) : Spans := ⟨(s.spans.splitBy Span.sameStyle).map .ofRun, s.unit⟩

/-! ### Runs -/

/-- Lists of spans that are the maximal runs of the same style. Each list is such a run, and two
neighbouring lists differ in style, or they would be one run. -/
structure Runs (runs : List (List Span)) : Prop where
  nonempty : ∀ run ∈ runs, run ≠ []
  same : ∀ run ∈ runs, ∀ s ∈ run, s.style = (Span.ofRun run).style
  apart : runs.IsChain fun a b => (Span.ofRun a).style ≠ (Span.ofRun b).style

section Runs

variable {runs : List (List Span)} {run : List Span} {s : Span}

/-- The test of `List.splitBy` as a statement about styles. -/
theorem sameStyle_iff {a b : Span} : Span.sameStyle a b = true ↔ a.style = b.style := by
  simp [Span.sameStyle]

/-- The first span of a run has its style, by definition. -/
theorem head_style (hne : run ≠ []) : (run.head hne).style = (Span.ofRun run).style := by
  cases run with
  | nil => exact absurd rfl hne
  | cons s run => rfl

/-- A run is a list in which each span has the style of the next. The first form is how runs are
used, and the second how the library speaks of them. -/
theorem same_iff_isChain (run : List Span) :
    (∀ s ∈ run, s.style = (Span.ofRun run).style) ↔
      run.IsChain fun a b => Span.sameStyle a b = true := by
  cases run with
  | nil => simp
  | cons a run =>
      show (∀ s ∈ a :: run, s.style = a.style) ↔ _
      -- The first span may change, since the style is that of the next one too.
      induction run generalizing a with
      | nil => simp
      | cons b run ih =>
          rw [List.isChain_cons_cons, sameStyle_iff, ← ih b]
          constructor
          · intro h
            have hab : b.style = a.style := h b (by simp)
            refine ⟨hab.symm, fun s hs => ?_⟩
            rw [hab]
            exact h s (List.mem_cons_of_mem a hs)
          · rintro ⟨hab, h⟩ s hs
            rcases List.mem_cons.mp hs with rfl | hs
            · rfl
            · rw [hab]
              exact h s hs

/-- The maximal runs of a list are what splitting it between spans of different styles gives. So the
library's lemmas on `List.splitBy` apply to `Runs`. -/
theorem runs_iff (runs : List (List Span)) :
    Runs runs ↔ runs.flatten.splitBy Span.sameStyle = runs := by
  have hlast : ∀ run ∈ runs, ∀ hne : run ≠ [], (∀ s ∈ run, s.style = (Span.ofRun run).style) →
      (run.getLast hne).style = (Span.ofRun run).style :=
    fun run _ hne hsame => hsame _ (List.getLast_mem hne)
  -- The library compares the last span of a run with the first of the next one, and `Runs` compares
  -- the styles of the two runs.
  rw [List.splitBy_eq_iff]
  constructor
  · intro h
    refine ⟨rfl, fun hnil => h.nonempty [] hnil rfl, fun run hrun => ?_, ?_⟩
    · exact (same_iff_isChain run).mp (h.same run hrun)
    · refine h.apart.imp_of_mem_imp fun {a b} ha hb hab => ?_
      refine ⟨h.nonempty a ha, h.nonempty b hb, ?_⟩
      rw [Bool.eq_false_iff, Ne, sameStyle_iff, hlast a ha _ (h.same a ha), head_style]
      exact hab
  · rintro ⟨-, hnil, hchain, hapart⟩
    have hsame : ∀ run ∈ runs, ∀ s ∈ run, s.style = (Span.ofRun run).style :=
      fun run hrun => (same_iff_isChain run).mpr (hchain run hrun)
    refine ⟨fun run hrun hne => hnil (hne ▸ hrun), hsame, ?_⟩
    refine hapart.imp_of_mem_imp fun {a b} ha hb hab => ?_
    obtain ⟨hne, hne', hdiff⟩ := hab
    rwa [Bool.eq_false_iff, Ne, sameStyle_iff, hlast a ha hne (hsame a ha), head_style] at hdiff

/-- Coalescing makes one span of each run, if the spans are given by their runs. -/
theorem Runs.coalesce (h : Runs runs) (unit : LengthUnit) :
    Spans.coalesce ⟨runs.flatten, unit⟩ = ⟨runs.map .ofRun, unit⟩ := by
  rw [Spans.coalesce, (runs_iff runs).mp h]

/-- The runs of a list are found by splitting it. -/
theorem runs_splitBy (ss : List Span) : Runs (ss.splitBy Span.sameStyle) := by
  rw [runs_iff, List.flatten_splitBy]

/-- After coalescing, neighbours differ in style, since neighbouring runs do. -/
theorem isChain_coalesce (s : Spans) :
    s.coalesce.spans.IsChain fun a b => a.style ≠ b.style := by
  rw [Spans.coalesce, List.isChain_map]
  exact (runs_splitBy s.spans).apart

/-- Where neighbours differ in style, each span is a run of its own, and coalescing changes
nothing. -/
theorem coalesce_of_isChain {s : Spans} (h : s.spans.IsChain fun a b => a.style ≠ b.style) :
    s.coalesce = s := by
  have hruns : Runs (s.spans.map ([·])) := by
    constructor
    · simp
    · simp [Span.ofRun]
    · rw [List.isChain_map]
      exact h
  have hspan : ∀ span : Span, Span.ofRun [span] = span := by simp [Span.ofRun]
  have hcoalesce := hruns.coalesce s.unit
  rw [List.map_map] at hcoalesce
  simpa [Function.comp_def, hspan, ← List.flatMap_def] using hcoalesce

/-- A span of another style than that of the latest run begins a run. If there is no run yet, any
span does. -/
theorem Runs.concat_new (h : Runs runs)
    (hdiff : ∀ run ∈ runs.getLast?, (Span.ofRun run).style ≠ s.style) :
    Runs (runs ++ [[s]]) := by
  constructor
  · intro run hrun
    rcases List.mem_append.mp hrun with hrun | hrun
    · exact h.nonempty run hrun
    · rw [List.mem_singleton.mp hrun]
      exact List.cons_ne_nil s []
  · intro run hrun
    rcases List.mem_append.mp hrun with hrun | hrun
    · exact h.same run hrun
    · rw [List.mem_singleton.mp hrun]
      simp [Span.ofRun]
  · rw [List.isChain_append]
    refine ⟨h.apart, List.IsChain.singleton _, fun run hrun run' hrun' => ?_⟩
    cases hrun'
    exact hdiff run hrun

/-- A span at the end of a run adds its length. The style stays that of the first span. -/
theorem ofRun_concat (hne : run ≠ []) (s : Span) :
    Span.ofRun (run ++ [s]) = ⟨(Span.ofRun run).style, (Span.ofRun run).len + s.len⟩ := by
  cases run with
  | nil => exact absurd rfl hne
  | cons a run => simp [Span.ofRun, Nat.add_assoc]

/-- A span of the same style goes on with the latest run. Its neighbour before it is unchanged,
since the style of the run is. -/
theorem Runs.concat_same (h : Runs (runs ++ [run])) (hsame : (Span.ofRun run).style = s.style) :
    Runs (runs ++ [run ++ [s]]) := by
  have hmem : run ∈ runs ++ [run] := by simp
  have hrun := ofRun_concat (h.nonempty run hmem) s
  have hold : ∀ r ∈ runs, r ∈ runs ++ [run] := fun r hr => List.mem_append_left [run] hr
  constructor
  · intro r hr
    rcases List.mem_append.mp hr with hr | hr
    · exact h.nonempty r (hold r hr)
    · rw [List.mem_singleton.mp hr]
      simp
  · intro r hr t ht
    rcases List.mem_append.mp hr with hr | hr
    · exact h.same r (hold r hr) t ht
    · rw [List.mem_singleton.mp hr] at ht ⊢
      rw [hrun]
      rcases List.mem_append.mp ht with ht | ht
      · exact h.same run hmem t ht
      · rw [List.mem_singleton.mp ht]
        exact hsame.symm
  · -- The run before the latest one still differs from it in style.
    have hapart := h.apart
    rw [List.isChain_append] at hapart ⊢
    refine ⟨hapart.1, List.IsChain.singleton _, fun r hr r' hr' => ?_⟩
    cases hr'
    rw [hrun]
    exact hapart.2.2 r hr run rfl

end Runs

/-! ### Covers -/

/-- A segment that grows by the next one measures as much as the two. Here the measure of a text is
seen to be the sum of those of its parts. -/
theorem Segment.toSpan_grown (unit : LengthUnit) (text : Array Char) {s : Segment} {stop : Nat}
    (hs : s.start ≤ s.stop) (hstop : s.stop ≤ stop) (style : Option String) :
    ({ s with stop := stop } : Segment).toSpan unit text
      = ⟨s.style, (s.toSpan unit text).len
          + ((⟨style, s.stop, stop⟩ : Segment).toSpan unit text).len⟩ := by
  have hchars : ({ s with stop := stop } : Segment).chars text
      = s.chars text ++ (⟨style, s.stop, stop⟩ : Segment).chars text := by
    have hlength : stop - s.start = (s.stop - s.start) + (stop - s.stop) := by omega
    simp only [Segment.chars_eq]
    rw [hlength, List.take_add, List.drop_drop, Nat.add_sub_of_le hs]
  simp [Segment.toSpan, hchars]

/-- The spans of a cover, for comparing what two scans have covered so far. -/
def Cover.spans (unit : LengthUnit) (text : Array Char) (c : Cover) : List Span :=
  c.toList.map (·.toSpan unit text)

namespace Cover

variable {unit : LengthUnit} {text : Array Char} {c c' : Cover}

/-- What has been covered with merging, `c'`, is what has been covered without it, `c`, with a
segment for each run. This relates two scans, and holds between any two steps of them. -/
structure Merged (unit : LengthUnit) (text : Array Char) (c c' : Cover) : Prop where
  stop : c'.stop = c.stop
  runs : ∃ runs, Runs runs ∧ c.spans unit text = runs.flatten ∧
    c'.spans unit text = runs.map .ofRun

/-- At the beginning both have covered nothing, which has no runs. -/
theorem merged_empty (unit : LengthUnit) (text : Array Char) : Merged unit text .empty .empty :=
  ⟨rfl, [], (runs_iff []).mpr rfl, rfl, rfl⟩

/-- A new segment comes after the spans so far. The position up to which a cover goes does not show
in its spans. -/
theorem spans_cons (segments : List Segment) (n : Segment) (stop stop' : Nat) :
    spans unit text ⟨n :: segments, stop⟩
      = spans unit text ⟨segments, stop'⟩ ++ [n.toSpan unit text] := by
  simp [spans, toList]

/-- If the latest segment grows, the span that is new without merging goes on with the latest run.
The two measure the same, because the segment that grew ended where the new one begins. -/
theorem Merged.grow {last : Segment} {rest : List Segment} {stop : Nat}
    (h : Merged unit text c c') (hseg : c'.segments = last :: rest) (hle : last.start ≤ last.stop)
    (hlast : last.stop = c.stop) (hstop : c.stop ≤ stop) :
    Merged unit text ⟨⟨last.style, c.stop, stop⟩ :: c.segments, stop⟩
      ⟨{ last with stop := stop } :: rest, stop⟩ := by
  obtain ⟨_, runs, hruns, hc, hc'⟩ := h
  -- The latest run is that of the latest segment.
  have hold : runs.map .ofRun
      = spans unit text ⟨rest, c'.stop⟩ ++ [last.toSpan unit text] := by
    rw [← hc', ← spans_cons rest last c'.stop, ← hseg]
  obtain ⟨before, after, rfl, hbefore, hafter⟩ := List.map_eq_append_iff.mp hold
  obtain ⟨run, rfl, hrun⟩ := List.map_eq_singleton_iff.mp hafter
  have hne : run ≠ [] := hruns.nonempty run (by simp)
  have hstyle : (Span.ofRun run).style = last.style := by
    rw [hrun]
    rfl
  have hgrown := Segment.toSpan_grown unit text hle (hlast ▸ hstop) last.style
  rw [hlast] at hgrown
  refine ⟨rfl, before ++ [run ++ [(⟨last.style, c.stop, stop⟩ : Segment).toSpan unit text]],
    hruns.concat_same hstyle, ?_, ?_⟩
  · rw [spans_cons c.segments _ stop c.stop]
    show c.spans unit text ++ _ = _
    rw [hc]
    simp
  · rw [spans_cons rest _ stop c'.stop, ← hbefore, List.map_append, List.map_singleton,
      ofRun_concat hne, hrun, hgrown]
    rfl

/-- A new segment of another style than the latest one begins a run in both covers. The two latest
segments may differ in their starts, but not in their styles. -/
theorem Merged.push {style : Option String} {stop : Nat} (h : Merged unit text c c')
    (hdiff : ∀ last ∈ c'.segments.head?, last.style ≠ style) :
    Merged unit text ⟨⟨style, c.stop, stop⟩ :: c.segments, stop⟩
      ⟨⟨style, c'.stop, stop⟩ :: c'.segments, stop⟩ := by
  obtain ⟨hstop, runs, hruns, hc, hc'⟩ := h
  -- The latest run has the style of the latest segment with merging.
  have hapart : ∀ run ∈ runs.getLast?, (Span.ofRun run).style ≠ style := by
    intro run hrun
    have hlast : Span.ofRun run ∈ (c'.spans unit text).getLast? := by
      rw [hc', List.getLast?_map]
      exact Option.mem_map_of_mem _ hrun
    rw [spans, toList, List.getLast?_map, List.getLast?_reverse] at hlast
    obtain ⟨last, hmem, hlast⟩ := Option.mem_map.mp hlast
    rw [← hlast]
    exact hdiff last hmem
  refine ⟨rfl, runs ++ [[(⟨style, c.stop, stop⟩ : Segment).toSpan unit text]],
    hruns.concat_new hapart, ?_, ?_⟩
  · rw [spans_cons c.segments _ stop c.stop]
    show c.spans unit text ++ _ = _
    rw [hc]
    simp
  · rw [spans_cons c'.segments _ stop c'.stop, hstop]
    show c'.spans unit text ++ _ = _
    rw [hc']
    simp [Span.ofRun, Segment.toSpan]

/-- Covering more keeps the two in step. Whether the position is covered already is the same for
both, since they end at the same position. -/
theorem merged_extend (h : Merged unit text c c') (hc' : c'.Sound true) (stop : Nat)
    (style : Option String) :
    Merged unit text (c.extend false stop style) (c'.extend true stop style) := by
  rcases c.extend_cases false stop style with
    ⟨hle, heq⟩ | ⟨_, _, _, _, hfalse, _⟩ | ⟨hlt, _, heq⟩
  · have heq' : c'.extend true stop style = c' := if_pos (h.stop ▸ hle)
    rw [heq, heq']
    exact h
  · cases hfalse
  · rw [heq]
    rcases c'.extend_cases true stop style with
      ⟨hle, _⟩ | ⟨_, last, rest, hseg, _, rfl, heq'⟩ | ⟨_, hdiff, heq'⟩
    · -- What is new to one cover is new to the other.
      rw [h.stop] at hle
      omega
    · -- The segments tile the text, so the latest one ends where the cover does.
      have htiles := hc'.tiles
      rw [toList, hseg, List.reverse_cons, tiles_append] at htiles
      obtain ⟨m, _, _, hlt', hend⟩ := htiles
      rw [heq']
      exact h.grow hseg (Nat.le_of_lt hlt') (hend.trans h.stop) (Nat.le_of_lt hlt)
    · rw [heq']
      exact h.push fun last hlast => hdiff last hlast rfl

variable {styleOf : Option Nat → String}

/-- A match keeps the two in step. It covers the gap before it, and then itself, and a gap of no
length covers nothing in either of them. -/
theorem merged_record (f : Found) (h : Merged unit text c c') (hc' : c'.Sound true)
    (hs' : c'.Settled) :
    Merged unit text (c.record false styleOf f) (c'.record true styleOf f) := by
  unfold record
  split
  · have hgap := merged_extend h hc' f.start none
    exact merged_extend hgap (sound_extend hc' (Or.inr hs')) f.stop _
  · exact h

/-- The spans that are made of the two covers, once they are at the end of the text. An empty text
is no exception, since one span is a run of its own. -/
theorem Merged.ofSegments (h : Merged unit text c c') :
    Spans.ofSegments unit text c'.toList = (Spans.ofSegments unit text c.toList).coalesce := by
  obtain ⟨-, runs, hruns, hc, hc'⟩ := h
  have hempty : c'.toList.isEmpty = c.toList.isEmpty := by
    have hnil : c'.spans unit text = [] ↔ c.spans unit text = [] := by
      rw [hc, hc', List.map_eq_nil_iff, List.flatten_eq_nil_iff]
      constructor
      · rintro rfl
        simp
      · intro hall
        refine List.eq_nil_iff_forall_not_mem.mpr fun run hrun => ?_
        exact hruns.nonempty run hrun (hall run hrun)
    rw [Bool.eq_iff_iff, List.isEmpty_iff, List.isEmpty_iff]
    simpa only [spans, List.map_eq_nil_iff] using hnil
  rw [Spans.ofSegments, Spans.ofSegments, hempty]
  split
  · -- A text without segments has one span, which is a run of its own.
    exact (coalesce_of_isChain (List.IsChain.singleton _)).symm
  · show Spans.mk (c'.spans unit text) unit = Spans.coalesce ⟨c.spans unit text, unit⟩
    rw [hc, hc', hruns.coalesce]

end Cover

/-! ### Scans -/

section Scan

variable {ε : Type} (find : Finder ε) (stalled : ε) (size : Nat) (styleOf : Option Nat → String)
  {unit : LengthUnit} {text : Array Char}

/-- Two scans that differ in merging make the same searches. They end with the same error, or both
with what they have covered, and the latter stays in step. The induction is along the scan without
merging, and the other scan is unfolded beside it. -/
theorem merged_scanFrom (pos : Nat) (c c' : Cover) (h : Cover.Merged unit text c c')
    (hc' : c'.Sound true) (hs' : c'.Settled) :
    (∃ e, scanFrom find stalled size false styleOf pos c = .error e ∧
      scanFrom find stalled size true styleOf pos c' = .error e) ∨
    (∃ d d', scanFrom find stalled size false styleOf pos c = .ok d ∧
      scanFrom find stalled size true styleOf pos c' = .ok d' ∧
      Cover.Merged unit text d d' ∧ d'.Sound true ∧ d'.Settled) := by
  fun_induction scanFrom find stalled size false styleOf pos c generalizing c' with
  | case1 pos c hlt e herr =>
      refine Or.inl ⟨e, rfl, ?_⟩
      rw [scanFrom, if_pos hlt, herr]
  | case2 pos c hlt hnone =>
      refine Or.inr ⟨c, c', rfl, ?_, h, hc', hs'⟩
      rw [scanFrom, if_pos hlt, hnone]
  | case3 pos c hlt f hf hresume =>
      refine Or.inr ⟨c, c', rfl, ?_, h, hc', hs'⟩
      rw [scanFrom, if_pos hlt, hf]
      simp only [hresume]
  | case4 pos c hlt f hf next hresume hnext ih =>
      -- Both runs take the match in, and go on at the same position.
      have hsound : (c'.record true styleOf f).Sound true ∧ (c'.record true styleOf f).Settled :=
        Cover.sound_record f hc' hs'
      have hstep : scanFrom find stalled size true styleOf pos c'
          = scanFrom find stalled size true styleOf next (c'.record true styleOf f) := by
        rw [scanFrom, if_pos hlt, hf]
        simp only [hresume, if_pos hnext]
      rw [hstep]
      exact ih _ (Cover.merged_record f h hc' hs') hsound.1 hsound.2
  | case5 pos c hlt f hf next hresume hnext =>
      refine Or.inl ⟨stalled, rfl, ?_⟩
      rw [scanFrom, if_pos hlt, hf]
      simp only [hresume, if_neg hnext]
  | case6 pos c hge =>
      refine Or.inr ⟨c, c', rfl, ?_, h, hc', hs'⟩
      rw [scanFrom, if_neg hge]

end Scan

/-- The spans with merging are those without it after coalescing, whatever the searches find. If the
scan does not end, both are the same error. -/
theorem Pattern.spansWith_merged (p : Pattern) (find : Finder Error) (text : String)
    (options : Options) :
    p.spansWith find text { options with merge := true }
      = (p.spansWith find text { options with merge := false }).map .coalesce := by
  unfold Pattern.spansWith
  simp only [segments]
  rcases merged_scanFrom find (.endless p.language) text.toList.toArray.size
      (p.styleOf options.fallback) 0 .empty .empty
      (Cover.merged_empty options.unit text.toList.toArray) Cover.sound_empty
      Cover.settled_empty with
    ⟨e, hplain, hmerged⟩ | ⟨d, d', hplain, hmerged, h, hsound, hsettled⟩
  · rw [hplain, hmerged]
    rfl
  · rw [hplain, hmerged]
    have hend := Cover.merged_extend h hsound text.toList.toArray.size none
    exact congrArg Except.ok hend.ofSegments

/-- Merging while scanning is coalescing afterwards. So no two neighbours of the result have the
same style, and coalescing it again changes nothing.

Both scans make the same searches, and fail alike. The induction along them carries a list of runs:
the spans without merging are its elements, and those with merging the sums of its elements. -/
theorem spans_merged (p : Pattern) (text : String) (options : Options) :
    p.spans text { options with merge := true }
        = (p.spans text { options with merge := false }).map .coalesce ∧
    ∀ s, p.spans text { options with merge := true } = .ok s →
      s.spans.IsChain (fun a b => a.style ≠ b.style) ∧ s.coalesce = s := by
  have hmerged : p.spans text { options with merge := true }
      = (p.spans text { options with merge := false }).map .coalesce :=
    p.spansWith_merged _ text options
  refine ⟨hmerged, fun s hs => ?_⟩
  rw [hmerged] at hs
  -- The merged spans are those of a run without merging, coalesced.
  obtain ⟨s', -, rfl⟩ : ∃ s', p.spans text { options with merge := false } = .ok s' ∧
      s'.coalesce = s := by
    cases hplain : p.spans text { options with merge := false } with
    | error e =>
        rw [hplain] at hs
        cases hs
    | ok s' =>
        rw [hplain] at hs
        cases hs
        exact ⟨s', rfl, rfl⟩
  exact ⟨isChain_coalesce s', coalesce_of_isChain (isChain_coalesce s')⟩

/-- A pattern with two rules of one style, of which the second has empty matches. -/
def twoLetters : Pattern :=
  let a : Regex.Node := .literal ['a'] false
  let b : Regex.Node := .many (.literal ['b'] false) 0 none true
  let body : Regex.Node := .alt (.capture 1 a) (.capture 2 b)
  ⟨"letters", "(?<a>a)|(?<b>b*)", ⟨body, #[some body, some a, some b], [], [],
    [("a".toList, [1]), ("b".toList, [2])]⟩, [⟨"letter", 1⟩, ⟨"letter", 2⟩]⟩

/-- Neighbours from different rules become one span, and empty matches between the characters of
a gap do not part it. -/
theorem twoLetters_merged :
    twoLetters.spans "ab-éa" ⟨.bytes, true, "text", false⟩
        = .ok ⟨[.styled "letter" 2, .plain 3, .styled "letter" 1], .bytes⟩ ∧
    Spans.coalesce ⟨[.styled "letter" 2, .plain 3, .styled "letter" 1], .bytes⟩
        = ⟨[.styled "letter" 2, .plain 3, .styled "letter" 1], .bytes⟩ := by
  have hplain : twoLetters.spans "ab-éa" ⟨.bytes, false, "text", false⟩
      = .ok ⟨[.styled "letter" 1, .styled "letter" 1, .plain 3, .styled "letter" 1], .bytes⟩ := by
    cbv
  have hmerged := spans_merged twoLetters "ab-éa" ⟨.bytes, false, "text", false⟩
  have hcoalesce := hmerged.1
  rw [hplain] at hcoalesce
  exact ⟨hcoalesce, (hmerged.2 _ hcoalesce).2⟩

end Highlight
