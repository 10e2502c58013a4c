import Highlight.Proofs.Scan.Cover

/-!
# `Highlight.Proofs.Scan.Partition`: spans are a partition of their text

`IsPartition` collects what the spans of a text promise, whatever the language, the unit and the
options. Cutting the text along them loses nothing and adds nothing, their lengths add up to the
measure of the text, and none is empty, except for the one span of an empty text. Neighbours are
never both plain, and with merging they differ in style.

`spans_isPartition` is the main statement. It holds of every scan that comes to an end and in which
the searches keep to the text (`Pattern.ScansTo`), also of one that goes back into the text, which
`spansWith` does not follow. The searches of a pattern keep to the text
(`Pattern.find_inBounds`), and `spansWith` follows them to the end (`Pattern.spans_eq_ok_iff`).

`ofSegments_isPartition` is where the promises come from. The segments of a scan tile the text, and
each promise is read off the tiles.
-/

set_option autoImplicit false

namespace Highlight

/-- What the spans of a text promise. Each promise is about the list of spans and the text alone, so
that nothing has to be known of the language or of the scan to make use of it. -/
structure IsPartition (text : String) (options : Options) (s : Spans) : Prop where
  /-- The lengths are in the unit that was asked for. -/
  unit : s.unit = options.unit
  /-- The pieces of the text along the spans give it back. -/
  join : String.join ((s.slices text).map (·.1)) = text
  /-- The lengths add up to the measure of the text. -/
  sum : (s.spans.map (·.len)).sum = options.unit.measure text.toList
  /-- The total does not overflow for a text that fits into memory. -/
  total : text.utf8ByteSize < 2 ^ 64 → s.totalLength = options.unit.measure text.toList
  /-- An empty text has one empty plain span. -/
  empty : text = "" → s.spans = [.plain 0]
  /-- No other text has an empty span. -/
  nonempty : text ≠ "" → ∀ span ∈ s.spans, span.len ≠ 0
  /-- Two neighbours are not both plain. -/
  plain : s.spans.IsChain fun a b => ¬ (a.isPlain ∧ b.isPlain)
  /-- With merging, two neighbours differ in style. -/
  merged : options.merge = true → s.spans.IsChain fun a b => a.style ≠ b.style

/-- Adding up the lengths from a number on, as `Spans.totalLength` does, is adding their sum. The
fold is on natural numbers here. That it is on words of 64 bits comes in at the end. -/
theorem Spans.foldl_len (n : Nat) (ss : List Span) :
    ss.foldl (fun n span => n + span.len) n = n + (ss.map (·.len)).sum := by
  induction ss generalizing n with
  | nil => rfl
  | cons span ss ih =>
      rw [List.foldl_cons, ih, List.map_cons, List.sum_cons]
      omega

/-- The total of the lengths is their sum, as a word of 64 bits. It is exact for all lengths that
fit. -/
theorem Spans.totalLength_eq (s : Spans) :
    s.totalLength = (s.spans.map (·.len)).sum % 2 ^ 64 := by
  rw [totalLength, foldl_len, Nat.zero_add]
  rfl

/-! ### From segments to spans -/

section

variable {text : String} {options : Options} {ss : List Segment}

/-- Only an empty text has no segments. Its one span comes from `Spans.ofSegments`, and not from the
scan. -/
theorem eq_empty_of_tiles_nil (htiles : Tiles 0 text.toList.toArray.size []) : text = "" := by
  rw [← String.toList_eq_nil_iff, ← List.length_eq_zero_iff]
  exact htiles.symm

/-- If there are segments, the spans are those of the segments, one for each. -/
theorem spans_ofSegments (unit : LengthUnit) (chars : Array Char) (hne : ss ≠ []) :
    (Spans.ofSegments unit chars ss).spans = ss.map (·.toSpan unit chars) := by
  cases ss with
  | nil => exact absurd rfl hne
  | cons s ss => rfl

/-- The pieces of the text along its segments give it back. The pieces are found again from the
lengths of the spans, and together they are the characters of the tiling. -/
theorem join_slices_ofSegments (htiles : Tiles 0 text.toList.toArray.size ss) (hne : ss ≠ []) :
    String.join (((Spans.ofSegments options.unit text.toList.toArray ss).slices text).map (·.1))
      = text := by
  have hslices := slicesFrom_of_tiles text.toList.toArray options.unit htiles []
  have hchars := flatMap_chars_of_tiles text.toList.toArray htiles
  rw [List.drop_zero] at hslices hchars
  rw [← String.toList_inj, String.toList_join, Spans.slices, spans_ofSegments _ _ hne]
  show ((Spans.slicesFrom options.unit [] _ text.toList).map _).flatMap _ = _
  rw [hslices]
  simpa [List.flatMap_map] using hchars

/-- No segment has an empty span. A segment has characters, and each character has a measure of at
least one in every unit. -/
theorem len_toSpan_ne_zero (htiles : Tiles 0 text.toList.toArray.size ss) {s : Segment}
    (hs : s ∈ ss) : (s.toSpan options.unit text.toList.toArray).len ≠ 0 := by
  have hb := bounds_of_tiles htiles hs
  have hlen := Segment.length_chars text.toList.toArray hb.2.2
  refine Nat.ne_of_gt (options.unit.measure_pos ?_)
  intro hnil
  rw [hnil, List.length_nil] at hlen
  omega

/-- The spans of a tiling of the whole text are a partition of it, if neighbours are apart. The case
of an empty text is by itself, since its one span does not come from a segment. -/
theorem ofSegments_isPartition (htiles : Tiles 0 text.toList.toArray.size ss)
    (hapart : ss.IsChain fun a b => Apart options.merge a.style b.style) :
    IsPartition text options (.ofSegments options.unit text.toList.toArray ss) := by
  by_cases hne : ss = []
  · subst hne
    obtain rfl := eq_empty_of_tiles_nil htiles
    exact {
      unit := rfl
      join := by simp [Spans.ofSegments, Spans.slices, Spans.slicesFrom, Span.plain]
      sum := rfl
      total := fun _ => rfl
      empty := fun _ => rfl
      nonempty := fun hne => absurd rfl hne
      plain := List.IsChain.singleton _
      merged := fun _ => List.IsChain.singleton _ }
  · have hspans := spans_ofSegments options.unit text.toList.toArray hne
    have hsum := measure_of_tiles text.toList.toArray options.unit htiles
    rw [List.drop_zero] at hsum
    -- The total is exact because no unit measures a text as longer than its bytes.
    have hsmall : text.utf8ByteSize < 2 ^ 64 → options.unit.measure text.toList < 2 ^ 64 :=
      Nat.lt_of_le_of_lt (options.unit.measure_le_utf8ByteSize text)
    exact {
      unit := rfl
      join := join_slices_ofSegments htiles hne
      sum := by rw [hspans, hsum]
      total := fun hlt => by
        rw [Spans.totalLength_eq, hspans, hsum, Nat.mod_eq_of_lt (hsmall hlt)]
      empty := fun hempty => by
        -- An empty text has no place for a segment.
        subst hempty
        obtain ⟨s, hs⟩ := List.exists_mem_of_ne_nil ss hne
        have hb := bounds_of_tiles htiles hs
        exact absurd hb.2.2 (by have := hb.2.1; simp; omega)
      nonempty := fun _ span hspan => by
        rw [hspans] at hspan
        obtain ⟨s, hs, rfl⟩ := List.mem_map.mp hspan
        exact len_toSpan_ne_zero htiles hs
      plain := by
        rw [hspans, List.isChain_map]
        exact hapart.imp fun a b h => fun hab => h.1 (by
          simpa [Segment.toSpan, Span.isPlain, Option.isNone_iff_eq_none] using hab)
      merged := fun hm => by
        rw [hspans, List.isChain_map]
        exact hapart.imp fun a b h => h.2 hm }

/-- A scan of a text is over, wherever its matches have led, and it has given these spans. Unlike
`Pattern.spansWith` it does not refuse to go back. -/
def Pattern.ScansTo (p : Pattern) (find : Finder Error) (text : String) (options : Options)
    (s : Spans) : Prop :=
  let chars := text.toList.toArray
  ∃ c, Completes find chars.size options.merge (p.styleOf options.fallback) 0 .empty c ∧
    s = .ofSegments options.unit chars (c.extend options.merge chars.size none).toList

variable {p : Pattern} {find : Finder Error} {s : Spans}

/-- What `spansWith` yields are spans that a scan gives. The guard of `scanFrom` stops runs, but
adds none. -/
theorem Pattern.scansTo_of_spansWith (h : p.spansWith find text options = .ok s) :
    p.ScansTo find text options s := by
  unfold Pattern.spansWith segments at h
  cases hscan : scanFrom find (.endless p.language) text.toList.toArray.size options.merge
      (p.styleOf options.fallback) 0 .empty with
  | error e =>
      simp only [hscan] at h
      cases h
  | ok c =>
      simp only [hscan] at h
      cases h
      exact ⟨c, completes_of_scanFrom hscan, rfl⟩

/-- For a pattern these are the only ones, since its matches do not lead back. So for patterns
nothing is lost by the guard. -/
theorem Pattern.spans_eq_ok_iff (p : Pattern) :
    p.spans text options = .ok s ↔ p.ScansTo (p.find text.toList.toArray) text options s := by
  refine ⟨scansTo_of_spansWith, ?_⟩
  rintro ⟨c, hscan, rfl⟩
  have hrun : scanFrom (p.find text.toList.toArray) (.endless p.language)
      text.toList.toArray.size options.merge (p.styleOf options.fallback) 0 .empty = .ok c :=
    scanFrom_of_completes (p.find_inBounds _) (p.find_forward _) hscan
  simp only [spans, spansWith, segments, hrun]

/-- The spans of a scan are a partition of the text, as long as the matches keep to the text. -/
theorem Pattern.isPartition_of_scansTo (hfind : find.InBounds text.toList.toArray.size)
    (h : p.ScansTo find text options s) : IsPartition text options s := by
  obtain ⟨c, hscan, rfl⟩ := h
  obtain ⟨htiles, hapart⟩ := sound_of_completes_empty hfind hscan
  exact ofSegments_isPartition htiles hapart

/-- The same of what `spansWith` yields. -/
theorem Pattern.isPartition_of_spansWith (hfind : find.InBounds text.toList.toArray.size)
    (h : p.spansWith find text options = .ok s) : IsPartition text options s :=
  isPartition_of_scansTo hfind (scansTo_of_spansWith h)

end

/-- Whenever a scan ends, its spans are a partition of the text. Of the searches it is only
asked that their matches keep to the text. The matches may overlap what is covered, and lead the
scan back into the text.

The spans that are computed are always those of such a scan. Those of a pattern are computed
whenever its scan ends, and its matches keep to the text. -/
theorem spans_isPartition (p : Pattern) (text : String) (options : Options) (s : Spans) :
    (∀ find : Finder Error, find.InBounds text.length →
      p.ScansTo find text options s → IsPartition text options s) ∧
    (∀ find : Finder Error, p.spansWith find text options = .ok s →
      p.ScansTo find text options s) ∧
    (p.spans text options = .ok s ↔
      p.ScansTo (p.find text.toList.toArray) text options s) ∧
    (p.spans text options = .ok s → IsPartition text options s) := by
  refine ⟨fun find hfind h => ?_, fun find => Pattern.scansTo_of_spansWith, p.spans_eq_ok_iff,
    fun h => Pattern.isPartition_of_spansWith (p.find_inBounds text.toList.toArray) h⟩
  refine Pattern.isPartition_of_scansTo ?_ h
  rwa [List.size_toArray, String.length_toList]

/-- A pattern with the one rule `é`. -/
def accents : Pattern where
  language := "accents"
  source := "(?<accent>é)"
  program := ⟨.capture 1 (.literal ['é'] false), #[none, some (.literal ['é'] false)], [], [],
    [("accent".toList, [1])]⟩
  rules := [⟨"accent", 1⟩]

/-- Searches of a text of four characters. The second one finds a match that begins in covered
text. The third one finds a match that lies before it, and the scan goes back. The last one finds
an empty match. -/
def wandering : Finder Error
  | 0 => .ok (some ⟨some 0, 1, 2⟩)
  | 2 => .ok (some ⟨some 0, 1, 3⟩)
  | 3 => .ok (some ⟨some 0, 0, 1⟩)
  | 1 => .ok (some ⟨none, 3, 3⟩)
  | _ => .ok none

/-- The four matches lie in the text, which has four characters. -/
theorem wandering_inBounds : wandering.InBounds "aé😀b".length := by
  intro pos f hf
  unfold wandering at hf
  split at hf <;> cases hf <;> decide

/-- The scan that these searches make. It begins in the order 0, 2, 3, 1, and ends. -/
theorem wandering_scansTo : accents.ScansTo wandering "aé😀b" ⟨.utf16, true, "text", false⟩
    ⟨[.plain 1, .styled "accent" 3, .plain 1], .utf16⟩ :=
  ⟨_, .turn (by decide) rfl rfl (.turn (by decide) rfl rfl (.turn (by decide) rfl rfl
    (.turn (by decide) rfl rfl (.atEnd (by decide))))), by cbv⟩

/-- Overlapping matches of one style, merged in a text whose characters differ in width. -/
theorem accents_isPartition :
    IsPartition "aé😀b" ⟨.utf16, true, "text", false⟩
      ⟨[.plain 1, .styled "accent" 3, .plain 1], .utf16⟩ ∧
    IsPartition "aé😀b" ⟨.bytes, false, "text", false⟩
      ⟨[.plain 1, .styled "accent" 2, .plain 5], .bytes⟩ :=
  ⟨(spans_isPartition accents _ _ _).1 wandering wandering_inBounds wandering_scansTo,
    (spans_isPartition accents _ _ _).2.2.2 (by cbv)⟩

end Highlight
