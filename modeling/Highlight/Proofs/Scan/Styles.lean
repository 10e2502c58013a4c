import Highlight.Proofs.Compilation
import Highlight.Proofs.Scan.Cover

/-!
# `Highlight.Proofs.Scan.Styles`: where the styles of spans come from

A span has no style, or one that the scan got from an owner of a match. `Cover.StyledBy` is the
invariant: it is kept by covering, by recording a match, and by the scan as a whole.

`style_of_mem_spans` is the main statement. The style of a span is that of a rule of the language,
or the one for matches without an owner. A scan makes no other styles, and changes none.
-/

set_option autoImplicit false

namespace Highlight

/-- The style is one that some owner gives, if there is one at all. A plain segment has none, and
then nothing is said. -/
def GivenBy (styleOf : Option Nat → String) (style : Option String) : Prop :=
  ∀ name ∈ style, ∃ owner, name = styleOf owner

namespace Cover

variable {merge : Bool} {styleOf : Option Nat → String} {c : Cover}

/-- All segments have styles that owners give, or none. It is an invariant of a scan, and says
nothing of where the segments lie. -/
def StyledBy (styleOf : Option Nat → String) (c : Cover) : Prop :=
  ∀ s ∈ c.segments, GivenBy styleOf s.style

/-- Covering with such a style keeps the styles. If the latest segment grows, its style is the one
that it had. -/
theorem styledBy_extend {stop : Nat} {style : Option String} (h : c.StyledBy styleOf)
    (hstyle : GivenBy styleOf style) : (c.extend merge stop style).StyledBy styleOf := by
  rcases c.extend_cases merge stop style with
    ⟨_, heq⟩ | ⟨_, last, rest, hseg, _, _, heq⟩ | ⟨_, _, heq⟩
  · rw [heq]
    exact h
  · -- The latest segment keeps its style.
    rw [StyledBy, hseg, List.forall_mem_cons] at h
    rw [heq]
    exact List.forall_mem_cons.mpr ⟨h.1, h.2⟩
  · rw [heq]
    exact List.forall_mem_cons.mpr ⟨hstyle, h⟩

/-- Covering without a style always does. This is the case of a gap, and of the rest of the text. -/
theorem styledBy_extend_plain {stop : Nat} (h : c.StyledBy styleOf) :
    (c.extend merge stop none).StyledBy styleOf :=
  styledBy_extend h nofun

/-- A match brings the style of its owner, and the gap before it brings none. A match that is
covered already brings nothing. -/
theorem styledBy_record (f : Found) (h : c.StyledBy styleOf) :
    (c.record merge styleOf f).StyledBy styleOf := by
  unfold record
  split
  · refine styledBy_extend (styledBy_extend_plain h) ?_
    rintro name ⟨⟩
    exact ⟨f.owner, rfl⟩
  · exact h

end Cover

section

variable {ε : Type} {find : Finder ε} {stalled : ε} {size : Nat} {merge : Bool}
  {styleOf : Option Nat → String}

/-- A scan as a whole keeps the styles, by induction along the searches. The owners are those of the
matches that were found, or none. -/
theorem styledBy_scanFrom (pos : Nat) (c c' : Cover)
    (hscan : scanFrom find stalled size merge styleOf pos c = .ok c')
    (h : c.StyledBy styleOf) : c'.StyledBy styleOf := by
  fun_induction scanFrom find stalled size merge styleOf pos c with
  | case1 pos c hlt e herr => cases hscan
  | case2 pos c hlt hnone =>
      cases hscan
      exact h
  | case3 pos c hlt f hf hresume =>
      cases hscan
      exact h
  -- Only a turn that goes on changes the cover.
  | case4 pos c hlt f hf next hresume hnext ih => exact ih hscan (Cover.styledBy_record f h)
  | case5 pos c hlt f hf next hresume hnext => cases hscan
  | case6 pos c hge =>
      cases hscan
      exact h

/-- The segments of a text have styles that owners give, or none. The last segment is the plain rest
of the text. -/
theorem givenBy_of_mem_segments {ss : List Segment}
    (h : segments find stalled size merge styleOf = .ok ss) {s : Segment} (hs : s ∈ ss) :
    GivenBy styleOf s.style := by
  unfold segments at h
  split at h
  · cases h
  · rename_i c hscan
    cases h
    have hstyled := styledBy_scanFrom 0 .empty c hscan nofun
    exact Cover.styledBy_extend_plain hstyled s (List.mem_reverse.mp hs)

end

/-- An owner gives the style of the rule that it is the index of. Without an owner, or with an index
that no rule has, it is the fallback. -/
theorem Pattern.styleOf_cases {l : Language} {p : Pattern} (h : Compiled l p) (fallback : String)
    (owner : Option Nat) :
    (∃ r ∈ l.rules, r.style = p.styleOf fallback owner) ∨ p.styleOf fallback owner = fallback := by
  unfold styleOf
  cases hstyle : owner.bind p.style? with
  | none => exact Or.inr rfl
  | some style =>
      obtain ⟨i, _, hi⟩ := Option.bind_eq_some_iff.mp hstyle
      rw [h.style] at hi
      obtain ⟨r, hr, hname⟩ := Option.map_eq_some_iff.mp hi
      exact Or.inl ⟨r, List.mem_of_getElem? hr, hname⟩

/-- The style of a span is that of a rule of the language, or that of matches without an owner. No
other style ever gets into the spans of a text. -/
theorem style_of_mem_spans {l : Language} {p : Pattern} {text : String} {options : Options}
    {s : Spans} (hl : Pattern.ofLanguage l = .ok p) (h : p.spans text options = .ok s)
    {span : Span} (hspan : span ∈ s.spans) {style : String} (hstyle : span.style = some style) :
    (∃ r ∈ l.rules, r.style = style) ∨ style = options.fallback := by
  unfold Pattern.spans Pattern.spansWith at h
  simp only at h
  split at h
  · cases h
  · rename_i ss hss
    cases h
    have hgiven : GivenBy (p.styleOf options.fallback) span.style := by
      unfold Spans.ofSegments at hspan
      split at hspan
      · -- The span of an empty text is plain.
        obtain rfl := List.mem_singleton.mp hspan
        exact nofun
      · obtain ⟨seg, hseg, rfl⟩ := List.mem_map.mp hspan
        exact givenBy_of_mem_segments hss hseg
    obtain ⟨owner, rfl⟩ := hgiven style hstyle
    exact Pattern.styleOf_cases (Pattern.ofLanguage_eq_ok_iff.mp hl) options.fallback owner

end Highlight
