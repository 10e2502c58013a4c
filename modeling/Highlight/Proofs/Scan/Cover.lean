import Highlight.Proofs.Scan.Course
import Highlight.Proofs.Scan.Tiling

/-!
# `Highlight.Proofs.Scan.Cover`: what a scan keeps about its cover

A scan changes its cover by `Cover.extend` only. `extend_cases` says once what that can do:
nothing, let the latest segment grow, or put a segment in front of the others.

`Cover.Sound` is the invariant. The segments of the cover tile the text up to its end, and two
neighbours are `Apart`: they are not both plain, and with merging they differ in style. Covering
with a style keeps it. Covering without one keeps it if the latest segment has a style, which is
`Cover.Settled`: so it is between two matches, and `sound_record` carries both over a match. A
match that begins in covered text needs no case of its own, since nothing is assumed of where a
match begins.

`sound_of_completes` follows by induction along the scan, without the guard of `scanFrom`. So it
also holds of scans that go back into the text.
-/

set_option autoImplicit false

namespace Highlight

/-- What may stand next to each other: not two segments without style, and with `merge` not two
segments of the same style. Without merging, two matches of one rule may be neighbours. -/
def Apart (merge : Bool) (a b : Option String) : Prop :=
  ¬ (a = none ∧ b = none) ∧ (merge = true → a ≠ b)

/-- The order of the two does not matter. The segments of a cover are kept in reverse, so it is
needed to read them forwards. -/
theorem Apart.symm {merge : Bool} {a b : Option String} (h : Apart merge a b) :
    Apart merge b a :=
  ⟨fun hab => h.1 hab.symm, fun hm hab => h.2 hm hab.symm⟩

namespace Cover

variable {merge : Bool} {c : Cover}

/-- The ends of the segments and their styles are as they should be: the segments tile the text up
to the end of the cover, and neighbours are apart. -/
structure Sound (merge : Bool) (c : Cover) : Prop where
  tiles : Tiles 0 c.stop c.toList
  apart : c.segments.IsChain fun a b => Apart merge a.style b.style

/-- The latest segment has a style, or there is none. A plain segment can be added to such a cover,
and no plain segment will stand next to another one. -/
def Settled (c : Cover) : Prop :=
  ∀ s ∈ c.segments.head?, s.style ≠ none

/-! ### Covering -/

/-- Covering does nothing, lets the latest segment grow, or adds a segment. All facts about covers
go back to these three cases, and do not look at the definition. -/
theorem extend_cases (merge : Bool) (c : Cover) (stop : Nat) (style : Option String) :
    (stop ≤ c.stop ∧ c.extend merge stop style = c) ∨
    (c.stop < stop ∧ ∃ last rest, c.segments = last :: rest ∧ merge = true ∧
      last.style = style ∧
      c.extend merge stop style = ⟨{ last with stop := stop } :: rest, stop⟩) ∨
    (c.stop < stop ∧ (∀ last ∈ c.segments.head?, merge = true → last.style ≠ style) ∧
      c.extend merge stop style = ⟨⟨style, c.stop, stop⟩ :: c.segments, stop⟩) := by
  unfold extend
  split
  · rename_i hle
    exact Or.inl ⟨hle, rfl⟩
  · rename_i hlt
    right
    -- There may be no latest segment to merge with.
    cases hseg : c.segments with
    | nil => exact Or.inr ⟨by omega, by simp, rfl⟩
    | cons last rest =>
        cases hsame : merge && last.style == style with
        | true =>
            rw [Bool.and_eq_true, beq_iff_eq] at hsame
            exact Or.inl ⟨by omega, last, rest, rfl, hsame.1, hsame.2, by simp [hsame.2, hsame.1]⟩
        | false =>
            refine Or.inr ⟨by omega, ?_, by simp [hsame]⟩
            intro l hl hm hstyle
            obtain rfl : last = l := by simpa using hl
            simp [hm, hstyle] at hsame

/-- Covering goes up to the position, or leaves the cover where it was. In both cases the cover then
ends at the greater of the two positions. -/
@[simp] theorem stop_extend (stop : Nat) (style : Option String) :
    (c.extend merge stop style).stop = max c.stop stop := by
  rcases c.extend_cases merge stop style with ⟨hle, h⟩ | ⟨hlt, _, _, _, _, _, h⟩ | ⟨hlt, _, h⟩
  · rw [h]; omega
  · rw [h]; exact (Nat.max_eq_right (Nat.le_of_lt hlt)).symm
  · rw [h]; exact (Nat.max_eq_right (Nat.le_of_lt hlt)).symm

/-! ### The invariant -/

/-- Nothing has been covered at the beginning, and no segments tile nothing. -/
theorem sound_empty : Cover.empty.Sound merge :=
  ⟨rfl, List.IsChain.nil⟩

/-- At the beginning there is no latest segment, so a scan may begin with a gap. -/
theorem settled_empty : Cover.empty.Settled := by
  intro s hs
  exact absurd hs (by simp [Cover.empty])

/-- Covering keeps the invariant, with a style always, and without one if the cover is settled. The
three cases are those of `extend_cases`. -/
theorem sound_extend {stop : Nat} {style : Option String} (h : c.Sound merge)
    (hstyle : style ≠ none ∨ c.Settled) : (c.extend merge stop style).Sound merge := by
  rcases c.extend_cases merge stop style with
    ⟨_, heq⟩ | ⟨hlt, last, rest, hseg, _, hsame, heq⟩ | ⟨hlt, hdiff, heq⟩
  · rw [heq]
    -- All of it was covered before, and nothing changes.
    exact h
  · -- The latest segment grows, and keeps its start and its style.
    rw [heq]
    have htiles := h.tiles
    have hapart := h.apart
    rw [toList, hseg, List.reverse_cons, tiles_append] at htiles
    obtain ⟨m, hrest, hstart, hstop, hend⟩ := htiles
    rw [tiles_nil] at hend
    constructor
    · rw [toList, List.reverse_cons, tiles_append]
      exact ⟨m, hrest, hstart, by show last.start < stop; omega, rfl⟩
    · rw [hseg] at hapart
      rw [List.isChain_cons] at hapart ⊢
      exact hapart
  · rw [heq]
    constructor
    · rw [toList, List.reverse_cons, tiles_append]
      -- A segment is added. It begins where the cover ended, and so the tiling goes on.
      exact ⟨c.stop, h.tiles, rfl, hlt, rfl⟩
    · rw [List.isChain_cons]
      refine ⟨fun last hlast => ⟨?_, fun hm heqs => hdiff last hlast hm heqs.symm⟩, h.apart⟩
      -- Both the new segment and the latest one would have to be plain, and one of them is not.
      rintro ⟨hnone, hlastNone⟩
      rcases hstyle with hs | hs
      · exact hs hnone
      · exact hs last hlast hlastNone

/-- Covering with a style settles the cover, unless all was covered before. The latest segment has a
style then, whether it is a new one or has grown. -/
theorem settled_extend {stop : Nat} {style : Option String} (hstyle : style ≠ none)
    (hle : stop ≤ c.stop → c.Settled) : (c.extend merge stop style).Settled := by
  rcases c.extend_cases merge stop style with
    ⟨hstop, heq⟩ | ⟨_, last, rest, _, _, hsame, heq⟩ | ⟨_, _, heq⟩
  · rw [heq]
    exact hle hstop
  · rw [heq]
    intro s hs
    obtain rfl : { last with stop := stop } = s := by simpa using hs
    exact fun hnone => hstyle (hsame.symm.trans hnone)
  · rw [heq]
    intro s hs
    obtain rfl : ⟨style, c.stop, stop⟩ = s := by simpa using hs
    exact hstyle

/-! ### Matches -/

variable {styleOf : Option Nat → String}

/-- A match keeps the invariant. It leaves a settled cover, since a match that is not empty ends
after the gap before it. This is the whole step of a scan. -/
theorem sound_record (f : Found) (h : c.Sound merge) (hs : c.Settled) :
    (c.record merge styleOf f).Sound merge ∧ (c.record merge styleOf f).Settled := by
  unfold record
  split
  · rename_i hlt
    have hgap : (c.extend merge f.start none).Sound merge := sound_extend h (Or.inr hs)
    have hsome : some (styleOf f.owner) ≠ none := Option.some_ne_none _
    refine ⟨sound_extend hgap (Or.inl hsome), settled_extend hsome ?_⟩
    intro hle
    rw [stop_extend] at hle
    -- The match ends in covered text, so there is no gap before it either.
    rcases c.extend_cases merge f.start none with ⟨_, heq⟩ | ⟨hlt', _⟩ | ⟨hlt', _⟩
    · rw [heq]
      exact hs
    · omega
    · omega
  · exact ⟨h, hs⟩

/-- A match inside the text keeps the cover inside the text. Only the end of the match counts, since
the gap before it ends where the match begins. -/
theorem stop_record_le {size : Nat} {f : Found} (hf : f.stop ≤ size) (h : c.stop ≤ size) :
    (c.record merge styleOf f).stop ≤ size := by
  unfold record
  split
  · rename_i hlt
    rw [stop_extend, stop_extend]
    omega
  · exact h

end Cover

/-! ### Scans -/

section Scan

variable {ε : Type} {find : Finder ε} {stalled : ε} {size : Nat} {merge : Bool}
  {styleOf : Option Nat → String}

/-- A scan keeps the invariant of its cover, wherever its matches lead. All that is asked of the
searches is that a match ends in the text. -/
theorem sound_of_completes (hfind : find.InBounds size) {pos : Nat} {c c' : Cover}
    (hscan : Completes find size merge styleOf pos c c')
    (h : c.Sound merge) (hs : c.Settled) (hstop : c.stop ≤ size) :
    c'.Sound merge ∧ c'.Settled ∧ c'.stop ≤ size := by
  induction hscan with
  | atEnd | missing | last => exact ⟨h, hs, hstop⟩
  | turn _ hf _ _ ih =>
      -- Where the next search begins does not matter here: the cover knows nothing of it.
      obtain ⟨hsound, hsettled⟩ := Cover.sound_record _ h hs
      exact ih hsound hsettled (Cover.stop_record_le (hfind _ _ hf).2 hstop)

/-- The segments of a text tile it, and neighbours are apart. The last step of a scan, which covers
the rest of the text, may add a plain segment, since the cover is settled before it. -/
theorem sound_of_completes_empty (hfind : find.InBounds size) {c : Cover}
    (hscan : Completes find size merge styleOf 0 .empty c) :
    Tiles 0 size (c.extend merge size none).toList ∧
      (c.extend merge size none).toList.IsChain fun a b => Apart merge a.style b.style := by
  obtain ⟨hsound, hsettled, hstop⟩ := sound_of_completes hfind hscan Cover.sound_empty
    Cover.settled_empty (Nat.zero_le size)
  have hfinal : (c.extend merge size none).Sound merge :=
    Cover.sound_extend hsound (Or.inr hsettled)
  constructor
  · have htiles := hfinal.tiles
    rwa [Cover.stop_extend, Nat.max_eq_right hstop] at htiles
  · rw [Cover.toList, List.isChain_reverse]
    exact hfinal.apart.imp fun _ _ => Apart.symm

/-- The same of what `segments` yields. The stretch behind the last match has been covered by then,
without a style. -/
theorem segments_sound (hfind : find.InBounds size) {ss : List Segment}
    (h : segments find stalled size merge styleOf = .ok ss) :
    Tiles 0 size ss ∧ ss.IsChain fun a b => Apart merge a.style b.style := by
  unfold segments at h
  split at h
  · cases h
  · rename_i c hscan
    cases h
    exact sound_of_completes_empty hfind (completes_of_scanFrom hscan)

end Scan

end Highlight
