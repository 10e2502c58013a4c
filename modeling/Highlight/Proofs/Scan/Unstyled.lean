import Highlight.Proofs.Priority
import Highlight.Scan

/-!
# `Highlight.Proofs.Scan.Unstyled`: a language without rules

A language without rules has no pattern of its own to search for. It is compiled like any other
language, from `Language.neverPattern`, and a text is scanned with it like any other text. That its
spans are one plain span is a fact about that pattern: its look-ahead excludes the character that it
asks for, so no attempt of any search gets past it.

`empty_isPlain` is the main statement. The first search finds nothing, and a scan whose first search
finds nothing (`segments_of_missing`) leaves the text in one piece. An empty text is no exception:
it has no segment, and gets its one span because no list of spans is empty.
-/

set_option autoImplicit false

namespace Highlight

open Regex (Program)

/-- A scan that finds nothing leaves the text in one segment, if there is any text. One search is
enough, since the scan ends with the first one that finds nothing. -/
theorem segments_of_missing {ε : Type} {find : Finder ε} {stalled : ε} {size : Nat} {merge : Bool}
    {styleOf : Option Nat → String} (h : find 0 = .ok none) :
    segments find stalled size merge styleOf
      = .ok (if size = 0 then [] else [⟨none, 0, size⟩]) := by
  have hscan : scanFrom find stalled size merge styleOf 0 .empty = .ok .empty := by
    unfold scanFrom
    split
    · rw [h]
    · rfl
  unfold segments
  rw [hscan]
  cases size with
  | zero => rfl
  | succ n => rfl

namespace Pattern

variable {p : Pattern} {text : String} {options : Options}

/-- A text in which the first search finds nothing is one plain span. An empty text has no segment,
and still one span. -/
theorem spansWith_of_missing {find : Finder Error} (h : find 0 = .ok none) :
    p.spansWith find text options
      = .ok ⟨[.plain (options.unit.measure text.toList)], options.unit⟩ := by
  unfold spansWith
  simp only [segments_of_missing h, List.size_toArray, Spans.ofSegments]
  -- The empty text has no segment, and its one span has length zero.
  cases htext : text.toList with
  | nil => rfl
  | cons c cs => simp [Segment.toSpan, Segment.chars, Span.plain]

/-- Without rules there is nothing to find. Every attempt of the search fails, so the search comes
to the end of the text. -/
theorem find_of_never (hp : p.program = .never) (text : Array Char) (pos : Nat) :
    p.find text pos = .ok none := by
  have hmissed : ∀ i, (p.program.attempt text pos i).Missed := by
    intro i
    rw [hp]
    exact Or.inl (Program.attempt_never text pos i)
  rw [find, Program.search_eq_missing hmissed]

/-- A language without rules compiles to the pattern that matches nowhere, and has no rule to look
for an owner among. -/
theorem ofLanguage_empty (name : String) :
    ofLanguage (.empty name) = .ok ⟨name, Language.neverPattern, .never, []⟩ := by
  have hcombined : (Language.empty name).combined = Language.neverPattern := rfl
  rw [ofLanguage_eq, hcombined, compile, Program.ofPattern_neverPattern]
  rfl

end Pattern

/-- A language without rules compiles, to the program of a pattern that matches at no position of
any text. With it every text is one plain span as long as the text, in each unit, with and without
merging, and whatever style a match without an owner would get. -/
theorem empty_isPlain (name : String) : ∃ p, Pattern.ofLanguage (.empty name) = .ok p ∧
    Program.ofPattern "(?!x)x".toList = .ok p.program ∧
    (∀ text start at', p.program.attempt text start at' = .failed) ∧
    (∀ text pos, p.find text pos = .ok none) ∧
    ∀ (text : String) (options : Options), p.spans text options
      = .ok ⟨[.plain (options.unit.measure text.toList)], options.unit⟩ := by
  refine ⟨_, Pattern.ofLanguage_empty name, Program.ofPattern_neverPattern,
    Program.attempt_never, Pattern.find_of_never rfl, ?_⟩
  intro text options
  exact Pattern.spansWith_of_missing (Pattern.find_of_never rfl _ 0)

end Highlight
