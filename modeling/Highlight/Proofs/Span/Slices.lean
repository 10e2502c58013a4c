import Highlight.Proofs.Scan.Partition

/-!
# `Highlight.Proofs.Span.Slices`: cutting a text along any spans

Spans need not fit the text that is cut along them. They may have been read from a file, or belong
to another text: a length may be 0, end inside a character or go beyond the end, and the total may
wrap around. `Spans.CutsAlong` collects what holds nevertheless.

* There is one piece for each span, and it has the style of the span.
* A piece is the shortest beginning of what is left of the text that measures the length of its
  span, or all that is left if that measures less (`IsCut`). So a length that ends inside a
  character is rounded up, and the next span begins after that character.
* The pieces are a beginning of the text, and no character is split: each piece ends where a
  character of the text does.
* If the total is at least the measure of the text, nothing of the text is left.

`slices_cutsAlong` is the main statement. The first parts are by induction on the spans, with what
is left of the text as the part that changes. For the last one, a piece measures the length of its
span unless the text ends, so what is left of the text never measures more than what is left of
the lengths. That the total is a word of 64 bits does no harm, since it is not more than the sum.
-/

set_option autoImplicit false

namespace Highlight

/-- The text `piece` is what a length cuts off at the beginning of `rest`. It is determined by this:
the shortest beginning that measures the length, or `rest` itself. -/
structure IsCut (unit : LengthUnit) (len : Nat) (rest piece : String) : Prop where
  /-- It is a beginning of `rest`. -/
  isPrefix : piece.toList <+: rest.toList
  /-- It measures the length, unless `rest` as a whole measures less. -/
  reaches : len ≤ unit.measure piece.toList ∨ (unit.measure rest.toList < len ∧ piece = rest)
  /-- No shorter beginning measures the length. -/
  shortest : ∀ q : String, q.toList <+: rest.toList → len ≤ unit.measure q.toList →
    piece.toList <+: q.toList

/-- The text of some pieces, put together in their order. -/
def textOf (pieces : List (String × Option String)) : String :=
  String.join (pieces.map (·.1))

/-- What cutting a text along spans promises, however the spans fit the text. -/
structure Spans.CutsAlong (s : Spans) (text : String) (pieces : List (String × Option String)) :
    Prop where
  /-- There is a piece for each span, with its style. -/
  styles : pieces.map (·.2) = s.spans.map (·.style)
  /-- The length of a span cuts its piece off from what the pieces before it have left. -/
  cut : ∀ i span piece, s.spans[i]? = some span → pieces[i]? = some piece →
    ∃ rest, text = textOf (pieces.take i) ++ rest ∧ IsCut s.unit span.len rest piece.1
  /-- The pieces are a beginning of the text. -/
  start : ∃ rest, text = textOf pieces ++ rest
  /-- In the bytes of the text, each piece ends where a character does. -/
  boundary : ∀ i, (textOf (pieces.take i)).rawEndPos.IsValid text
  /-- Nothing is left if the total is long enough. -/
  whole : s.unit.measure text.toList ≤ s.totalLength → textOf pieces = text

/-- The characters of some pieces are those of one piece after another. -/
@[simp] theorem toList_textOf (pieces : List (String × Option String)) :
    (textOf pieces).toList = pieces.flatMap (·.1.toList) := by
  simp [textOf, String.toList_join, List.flatMap_map]

/-! ### One piece -/

/-- The way back cuts off the shortest beginning. That it is shortest is what
`LengthUnit.reach_le_iff` says. -/
theorem isCut_reach (unit : LengthUnit) (len : Nat) (rest : List Char) :
    IsCut unit len (String.ofList rest) (String.ofList (rest.take (unit.reach len rest))) := by
  have hmeasure := unit.le_measure_take_reach len rest
  constructor
  · rw [String.toList_ofList, String.toList_ofList]
    exact List.take_prefix _ rest
  · rw [String.toList_ofList, String.toList_ofList]
    -- The rest is long enough, or all of it is taken.
    by_cases hlen : len ≤ unit.measure rest
    · rw [Nat.min_eq_left hlen] at hmeasure
      exact Or.inl hmeasure
    · have hshort : unit.measure rest < len := Nat.lt_of_not_le hlen
      rw [unit.take_reach_of_measure_le (Nat.le_of_lt hshort)]
      exact Or.inr ⟨hshort, rfl⟩
  · intro q hq hlen
    rw [String.toList_ofList] at hq ⊢
    rw [List.prefix_iff_eq_take] at hq
    -- Any other prefix of that length is at least as long, since the cut is the shortest.
    have hle : unit.reach len rest ≤ q.toList.length := by
      rw [unit.reach_le_iff, ← hq]
      exact Nat.le_trans (Nat.min_le_left _ _) hlen
    rw [hq]
    exact List.take_prefix_take_left hle

/-! ### All pieces -/

namespace Spans

variable (unit : LengthUnit)

/-- The pieces that have been cut off before only come first. So the others can be looked at without
them. -/
theorem slicesFrom_eq (before : List (String × Option String)) (ss : List Span) (cs : List Char) :
    slicesFrom unit before ss cs = before.reverse ++ slicesFrom unit [] ss cs := by
  induction ss generalizing before cs with
  | nil => simp [slicesFrom]
  | cons s ss ih =>
      simp only [slicesFrom]
      rw [ih, ih [_]]
      simp

/-- The first span cuts off its piece, and the others are cut off from what is left. -/
theorem slicesFrom_cons (s : Span) (ss : List Span) (cs : List Char) :
    slicesFrom unit [] (s :: ss) cs
      = (String.ofList (cs.take (unit.reach s.len cs)), s.style)
          :: slicesFrom unit [] ss (cs.drop (unit.reach s.len cs)) := by
  rw [slicesFrom, slicesFrom_eq]
  rfl

/-- Each piece has the style of its span, even if nothing is left for it. -/
theorem map_style_slicesFrom (ss : List Span) (cs : List Char) :
    (slicesFrom unit [] ss cs).map (·.2) = ss.map (·.style) := by
  induction ss generalizing cs with
  | nil => rfl
  | cons s ss ih => rw [slicesFrom_cons, List.map_cons, List.map_cons, ih]

/-- What the first pieces and all others have not covered is left of the text. Stated for any number
of pieces, so that a single piece can be found in the text. -/
theorem exists_rest_slicesFrom (ss : List Span) (cs : List Char) (i : Nat) :
    ∃ rest, cs = (textOf ((slicesFrom unit [] ss cs).take i)).toList ++ rest := by
  induction ss generalizing cs i with
  | nil => exact ⟨cs, by simp [slicesFrom]⟩
  | cons s ss ih =>
      cases i with
      | zero => exact ⟨cs, by simp⟩
      | succ i =>
          obtain ⟨rest, hrest⟩ := ih (cs.drop (unit.reach s.len cs)) i
          refine ⟨rest, ?_⟩
          rw [slicesFrom_cons, List.take_succ_cons, toList_textOf, List.flatMap_cons,
            List.append_assoc, ← toList_textOf, ← hrest, String.toList_ofList,
            List.take_append_drop]

/-- Each piece is cut off by the length of its span, from what the pieces before it have left. The
induction is on the spans, and the index goes down with them. -/
theorem isCut_slicesFrom (ss : List Span) (cs : List Char) (i : Nat) (span : Span)
    (piece : String × Option String) (hspan : ss[i]? = some span)
    (hpiece : (slicesFrom unit [] ss cs)[i]? = some piece) :
    ∃ rest, cs = (textOf ((slicesFrom unit [] ss cs).take i)).toList ++ rest ∧
      IsCut unit span.len (String.ofList rest) piece.1 := by
  induction ss generalizing cs i with
  | nil => cases hspan
  | cons s ss ih =>
      rw [slicesFrom_cons] at hpiece ⊢
      cases i with
      | zero =>
          cases hspan
          cases hpiece
          exact ⟨cs, by simp, isCut_reach unit _ cs⟩
      | succ i =>
          -- The first slice is gone, and the others are cut from what it leaves.
          obtain ⟨rest, hrest, hcut⟩ := ih (cs.drop (unit.reach s.len cs)) i hspan hpiece
          refine ⟨rest, ?_, hcut⟩
          rw [List.take_succ_cons, toList_textOf, List.flatMap_cons, List.append_assoc,
            ← toList_textOf, ← hrest, String.toList_ofList, List.take_append_drop]

/-- Lengths that add up to the measure of the text, or more, cover it. The induction is on the
spans, with what is left of the text. -/
theorem toList_textOf_slicesFrom (ss : List Span) (cs : List Char)
    (h : unit.measure cs ≤ (ss.map (·.len)).sum) :
    (textOf (slicesFrom unit [] ss cs)).toList = cs := by
  induction ss generalizing cs with
  | nil =>
      have hcs : cs = [] := unit.measure_eq_zero.mp (Nat.le_zero.mp h)
      rw [hcs]
      rfl
  | cons s ss ih =>
      rw [List.map_cons, List.sum_cons] at h
      -- The piece measures its length or all there is, so the other lengths cover the rest.
      have hpiece := unit.le_measure_take_reach s.len cs
      have hsplit := List.take_append_drop (unit.reach s.len cs) cs
      have hsum := unit.measure_append (cs.take (unit.reach s.len cs))
        (cs.drop (unit.reach s.len cs))
      rw [hsplit] at hsum
      have hrest : unit.measure (cs.drop (unit.reach s.len cs)) ≤ (ss.map (·.len)).sum := by omega
      rw [slicesFrom_cons, toList_textOf, List.flatMap_cons, ← toList_textOf, ih _ hrest,
        String.toList_ofList, hsplit]

/-- Cutting a text along any spans gives a piece for each, the shortest that measures its length,
and splits no character. The pieces are a beginning of the text, and all of it if the total is
long enough. -/
theorem slices_cutsAlong (s : Spans) (text : String) : s.CutsAlong text (s.slices text) := by
  have htext : ∀ (pieces : List (String × Option String)) (rest : List Char),
      text.toList = (textOf pieces).toList ++ rest →
      text = textOf pieces ++ String.ofList rest := by
    intro pieces rest h
    rw [← String.toList_inj, h, String.toList_append, String.toList_ofList]
  have hstart : ∀ i, ∃ rest, text = textOf ((s.slices text).take i) ++ rest := by
    intro i
    obtain ⟨rest, hrest⟩ := exists_rest_slicesFrom s.unit s.spans text.toList i
    exact ⟨String.ofList rest, htext _ rest hrest⟩
  constructor
  · exact map_style_slicesFrom s.unit s.spans text.toList
  · intro i span piece hspan hpiece
    obtain ⟨rest, hrest, hcut⟩ :=
      isCut_slicesFrom s.unit s.spans text.toList i span piece hspan hpiece
    exact ⟨String.ofList rest, htext _ rest hrest, hcut⟩
  · have h := hstart (s.slices text).length
    rwa [List.take_length] at h
  · intro i
    obtain ⟨rest, hrest⟩ := hstart i
    exact String.Pos.Raw.isValid_iff_exists_append.mpr ⟨_, rest, hrest, rfl⟩
  · intro hlen
    -- The total is only known modulo `2 ^ 64`, and the sum of the lengths is not below it.
    rw [totalLength_eq] at hlen
    have hsum : s.unit.measure text.toList ≤ (s.spans.map (·.len)).sum :=
      Nat.le_trans hlen (Nat.mod_le _ _)
    rw [← String.toList_inj]
    exact toList_textOf_slicesFrom s.unit s.spans text.toList hsum

/-- Spans in bytes of which one ends inside a character, one is empty, and one is so long that the
total wraps around. -/
def misfits : Spans := ⟨[.styled "a" 2, .plain 0, .styled "b" (2 ^ 64 - 1), .plain 9], .bytes⟩

/-- Their total is still more than a short text measures, so they cover all of it. -/
theorem textOf_slices_misfits : misfits.totalLength = 10 ∧
    misfits.slices "aé😀b" = [("aé", some "a"), ("", none), ("😀b", some "b"), ("", none)] ∧
    textOf (misfits.slices "aé😀b") = "aé😀b" :=
  ⟨by decide, by decide, (slices_cutsAlong misfits "aé😀b").whole (by decide)⟩

end Spans

end Highlight
