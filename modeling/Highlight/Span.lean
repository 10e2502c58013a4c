import Highlight.LengthUnit

/-!
# `Highlight.Span`: texts cut into styled spans

A span is a length with at most one style. A `Spans` value is a list of them, each beginning
where the one before it ends, with the unit of their lengths. `Spans.slices` cuts a text along
them, which need not be the text that they were made for: a length that ends inside a character
counts to its end, and what the text lacks is left out.
-/

set_option autoImplicit false

namespace Highlight

/-- A length with at most one style. -/
structure Span where
  /-- The style, if there is one -/
  style : Option String
  /-- The length -/
  len : Nat
  deriving DecidableEq, Repr

namespace Span

/-- A span without a style. -/
def plain (len : Nat) : Span := ⟨none, len⟩

/-- A span with a style. -/
def styled (style : String) (len : Nat) : Span := ⟨some style, len⟩

/-- Whether a span has no style. -/
def isPlain (s : Span) : Bool := s.style.isNone

end Span

/-- Spans one after another. They need not fit any text, and their lengths may be 0. -/
structure Spans where
  spans : List Span
  /-- The unit of their lengths -/
  unit : LengthUnit
  deriving DecidableEq, Repr

namespace Spans

/-- The number of spans. -/
def count (s : Spans) : Nat := s.spans.length

/-- Whether there are no spans. -/
def isEmpty (s : Spans) : Bool := s.spans.isEmpty

/-- The length of all spans together, as a word of 64 bits. Lengths that were read from a file may
be so great that their sum does not fit, and then it wraps around. -/
def totalLength (s : Spans) : Nat :=
  (s.spans.foldl (fun n span => n + span.len) 0) % Nat.pow 2 64

/-- Cuts a list of characters along spans. `before` are the pieces already cut, the latest
first. -/
def slicesFrom (unit : LengthUnit) (before : List (String × Option String)) :
    List Span → List Char → List (String × Option String)
  | [], _ => before.reverse
  | s :: ss, cs =>
    let n := unit.reach s.len cs
    slicesFrom unit ((String.ofList (cs.take n), s.style) :: before) ss (cs.drop n)

/-- Cuts a text along the spans: each piece with its style. There are as many pieces as spans, and
those beyond the end of the text are empty. -/
def slices (s : Spans) (text : String) : List (String × Option String) :=
  slicesFrom s.unit [] s.spans text.toList

end Spans

end Highlight
