import Highlight.Options
import Highlight.Pattern
import Highlight.Span

/-!
# `Highlight.Scan`: from matches to spans

A scan goes through a text from match to match. Each search begins where the match before it
ended, or one character later after an empty match. What is matched becomes a segment with the
style of its owner, what lies between matches a plain one, and an empty match nothing.

`Cover` is what has been covered so far: segments without gaps, up to a position. It only grows
at its end, so a match that begins in covered text gives a segment for its uncovered part only.

A scan ends because each search begins later than the one before it. A match that would not let
it get on is an error. The loop that this stands for has no such check, and goes on without end
where a pattern finds such a match: see `Completes` in `Highlight.Proofs.Scan.Course`.
-/

set_option autoImplicit false

namespace Highlight

/-- A stretch of text with at most one style. It is known by its positions, and not yet by its
length. -/
structure Segment where
  /-- The style, if there is one -/
  style : Option String
  /-- The position where it begins -/
  start : Nat
  /-- The position where it ends -/
  stop : Nat
  deriving DecidableEq, Repr

/-- What has been covered so far. As `extend` makes them, the segments are without gaps, and the
latest one ends at `stop`. -/
structure Cover where
  /-- The segments, the latest first -/
  segments : List Segment
  /-- The position up to which they go -/
  stop : Nat
  deriving DecidableEq, Repr

namespace Cover

/-- Nothing. -/
def empty : Cover := ⟨[], 0⟩

/-- Covers the text up to a position. With `merge`, the latest segment grows if it has the same
style. What is covered already stays as it is, so nothing happens if the position is not beyond
it. -/
def extend (merge : Bool) (c : Cover) (stop : Nat) (style : Option String) : Cover :=
  if stop ≤ c.stop then c
  else
    match c.segments with
    | last :: rest =>
      if merge && last.style == style then ⟨{ last with stop := stop } :: rest, stop⟩
      else ⟨⟨style, c.stop, stop⟩ :: last :: rest, stop⟩
    | [] => ⟨[⟨style, c.stop, stop⟩], stop⟩

/-- The segments in their order. -/
def toList (c : Cover) : List Segment := c.segments.reverse

end Cover

/-- Looks for the leftmost match from a position on. -/
abbrev Finder (ε : Type) := Nat → Except ε (Option Found)

/-- The position where the search after a match begins: the end of the match, or the next character
if the match is empty. There is none after an empty match at the end of a text. -/
def Found.resume? (f : Found) (size : Nat) : Option Nat :=
  if f.start < f.stop then some f.stop
  else if f.stop < size then some (f.stop + 1)
  else none

/-- Covers a match, and the gap before it. An empty match covers nothing. If the match begins in
covered text, only the rest of it gets its style. -/
def Cover.record (merge : Bool) (styleOf : Option Nat → String) (c : Cover) (f : Found) : Cover :=
  if f.start < f.stop then
    (c.extend merge f.start none).extend merge f.stop (some (styleOf f.owner))
  else c

/-- Scans a text of a certain size from a position on. The scan ends at the end of the text, with a
search that finds nothing, or with an empty match at the end. `stalled` is the error for a match
that does not let it get on, and errors of a search are passed on. -/
def scanFrom {ε : Type} (find : Finder ε) (stalled : ε) (size : Nat)
    (merge : Bool) (styleOf : Option Nat → String) (pos : Nat) (c : Cover) : Except ε Cover :=
  if pos < size then
    match find pos with
    | .error e => .error e
    | .ok none => .ok c
    | .ok (some f) =>
      match f.resume? size with
      | none => .ok c
      | some next =>
        -- Of a finder it is not known that its matches end after the position it was given.
        if pos < next then
          scanFrom find stalled size merge styleOf next (c.record merge styleOf f)
        else .error stalled
  else .ok c
termination_by size - pos

/-- The segments of a text. They cover all of it: what is left behind the last match has no
style. -/
def segments {ε : Type} (find : Finder ε) (stalled : ε) (size : Nat)
    (merge : Bool) (styleOf : Option Nat → String) : Except ε (List Segment) :=
  match scanFrom find stalled size merge styleOf 0 .empty with
  | .error e => .error e
  | .ok c => .ok (c.extend merge size none).toList

/-- The characters of a segment. -/
def Segment.chars (s : Segment) (text : Array Char) : List Char :=
  (text.extract s.start s.stop).toList

/-- The span of a segment. -/
def Segment.toSpan (unit : LengthUnit) (text : Array Char) (s : Segment) : Span :=
  ⟨s.style, unit.measure (s.chars text)⟩

/-- The spans of segments. A text without segments is one empty plain span, so there is always a
span. -/
def Spans.ofSegments (unit : LengthUnit) (text : Array Char) (ss : List Segment) : Spans :=
  ⟨if ss.isEmpty then [.plain 0] else ss.map (·.toSpan unit text), unit⟩

namespace Pattern

/-- The style of the match of an owner. The fallback is for a match without one. -/
def styleOf (p : Pattern) (fallback : String) (owner : Option Nat) : String :=
  (owner.bind p.style?).getD fallback

/-- The spans of a text in which `find` looks for the matches. The scan is the same for all units,
which matter only when the segments are measured. -/
def spansWith (p : Pattern) (find : Finder Error) (text : String) (options : Options) :
    Except Error Spans :=
  let chars := text.toList.toArray
  match segments find (.endless p.language) chars.size options.merge
      (p.styleOf options.fallback) with
  | .error e => .error e
  | .ok ss => .ok (.ofSegments options.unit chars ss)

/-- The spans of a text. -/
def spans (p : Pattern) (text : String) (options : Options) : Except Error Spans :=
  p.spansWith (p.find text.toList.toArray) text options

end Pattern

end Highlight
