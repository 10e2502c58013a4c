import Highlight.Proofs.Priority
import Highlight.Scan

/-!
# `Highlight.Proofs.Ownership`: when every match has an owner

The rules of a language are joined to one pattern as texts. A rule is meant to be an alternative
of its own there, so that a match is that of one rule, and the fallback style is for nothing.

`exists_owner` is the main statement: this is so for every language whose combined pattern is read
as the alternation of its rules. In every match the group of exactly one rule has a part, the
match belongs to that rule, and spans do not depend on the fallback style.

Compiling a language does not make sure that its combined pattern is read that way, even though
each pattern is compiled on its own too, and each group name has to occur once. In
`exists_not_owner` a comment goes on from one rule into the next one, where the text that is left
is still a pattern. One of its alternatives is in no group, and a match of it has no owner.
-/

set_option autoImplicit false

namespace Highlight

open Regex (Node Program Syntax)

/-- Styles make a difference to a scan only for the owners of the matches that it can find. The
cases are those of the scan, and only one of them asks for a style. -/
theorem scanFrom_congr {ε : Type} {find : Finder ε} {stalled : ε} {size : Nat} {merge : Bool}
    {styleOf styleOf' : Option Nat → String}
    (h : ∀ pos f, find pos = .ok (some f) → styleOf f.owner = styleOf' f.owner)
    (pos : Nat) (c : Cover) :
    scanFrom find stalled size merge styleOf pos c =
      scanFrom find stalled size merge styleOf' pos c := by
  fun_induction scanFrom find stalled size merge styleOf pos c with
  | case1 pos c hlt e herr => rw [scanFrom, if_pos hlt, herr]
  | case2 pos c hlt hnone => rw [scanFrom, if_pos hlt, hnone]
  | case3 pos c hlt f hf hresume =>
      rw [scanFrom, if_pos hlt, hf]
      simp only [hresume]
  | case4 pos c hlt f hf next hresume hnext ih =>
      -- Only the style that is recorded mentions `styleOf`, and this is a match that was found.
      have hrecord : c.record merge styleOf f = c.record merge styleOf' f := by
        rw [Cover.record, Cover.record, h pos f hf]
      rw [ih, scanFrom.eq_def _ _ _ _ _ pos, if_pos hlt, hf, hrecord]
      simp only [hresume, if_pos hnext]
  | case5 pos c hlt f hf next hresume hnext =>
      rw [scanFrom, if_pos hlt, hf]
      simp only [hresume, if_neg hnext]
  | case6 pos c hge => rw [scanFrom, if_neg hge]

namespace Pattern

variable {l : Language} {p : Pattern}

/-- A language without rules has no matches, whatever the text is. -/
theorem search_ne_found_of_isEmpty (hcompiles : Compiles l p) (hempty : l.rules = [])
    {text : Array Char} {pos : Nat} {m : Regex.Match} :
    p.program.search text pos ≠ .found m := by
  intro h
  obtain ⟨at', _, _, ⟨st, hst, _⟩, _⟩ := Program.search_found h
  rw [hcompiles.program_eq_never hempty, Program.attempt_never] at hst
  cases hst

/-- In a match, the group of exactly one rule has a part: that of the rule whose turn it was. The
rules before it have failed, and those after it have not been tried. -/
theorem ownedBy_of_search (hl : ofLanguage l = .ok p) (hreads : l.rules ≠ [] → l.IsAlternation)
    {text : Array Char} {pos : Nat} {m : Regex.Match} (h : p.program.search text pos = .found m) :
    ∃ i, p.OwnedBy m i := by
  have hne : l.rules ≠ [] :=
    fun hempty => search_ne_found_of_isEmpty (ofLanguage_eq_ok hl) hempty h
  obtain ⟨alts, hgrouped⟩ := grouped_of_language hl (hreads hne) hne
  obtain ⟨at', _, hsize, ⟨st, hst, rfl⟩, _⟩ := Program.search_found h
  obtain ⟨i, hi, _⟩ := hgrouped.matches_of_attempt hst
  exact ⟨i, hgrouped.ownedBy hsize hi⟩

/-- The rule that owns a match gives it its style, whatever the fallback is. The compiled rules have
the styles of the rules, in the same order. -/
theorem OwnedBy.styleOf_ownerOf (hcompiles : Compiles l p) {m : Regex.Match} {i : Nat}
    (h : p.OwnedBy m i) : ∃ r, l.rules[i]? = some r ∧
      ∀ fallback, p.styleOf fallback (p.ownerOf m) = r.style := by
  have hlt : i < l.rules.length := hcompiles.rules.length_eq ▸ h.lt
  have hr := List.getElem?_eq_getElem hlt
  obtain ⟨c, hc, hstyle, _⟩ := getElem?_of_forall₂ hcompiles.rules hr
  refine ⟨l.rules[i], hr, ?_⟩
  intro fallback
  rw [styleOf, h.ownerOf_eq_some, Option.bind_some, style?, hc]
  exact hstyle

/-- What a search finds is the match of one rule, and is reported with the index of that rule. The
fallback is not used for it. -/
theorem owner_of_find (hl : ofLanguage l = .ok p) (hreads : l.rules ≠ [] → l.IsAlternation)
    {text : Array Char} {pos : Nat} {f : Found} (h : p.find text pos = .ok (some f)) :
    ∃ m i r, p.program.search text pos = .found m ∧ p.OwnedBy m i ∧ f.owner = some i ∧
      l.rules[i]? = some r ∧ ∀ fallback, p.styleOf fallback f.owner = r.style := by
  unfold find at h
  split at h
  · rename_i m hm
    cases h
    obtain ⟨i, hi⟩ := ownedBy_of_search hl hreads hm
    obtain ⟨r, hr, hstyle⟩ := hi.styleOf_ownerOf (ofLanguage_eq_ok hl)
    exact ⟨m, i, r, hm, hi, hi.ownerOf_eq_some, hr, hstyle⟩
  · cases h
  · cases h

/-- In every match of a language that is read as the alternation of its rules, the group of exactly
one rule has a part, and the match belongs to that rule. The fallback style makes no difference.

Patterns are joined as texts, so the rules of a language may be read as something else. Then a match
can be without an owner, as it is with the rules of `swallowing`. -/
theorem exists_owner (hl : ofLanguage l = .ok p) (hreads : l.rules ≠ [] → l.IsAlternation) :
    (∀ text pos f, p.find text pos = .ok (some f) → ∃ m i r,
      p.program.search text pos = .found m ∧ p.OwnedBy m i ∧ f.owner = some i ∧
      l.rules[i]? = some r ∧ ∀ fallback, p.styleOf fallback f.owner = r.style) ∧
    ∀ text options fallback,
      p.spans text { options with fallback := fallback } = p.spans text options := by
  refine ⟨fun text pos f h => owner_of_find hl hreads h, ?_⟩
  intro text options fallback
  have hstyles : ∀ pos f, p.find text.toList.toArray pos = .ok (some f) →
      p.styleOf fallback f.owner = p.styleOf options.fallback f.owner := by
    intro pos f hf
    obtain ⟨_, _, r, _, _, _, _, hstyle⟩ := owner_of_find hl hreads hf
    rw [hstyle, hstyle]
  rw [spans, spans, spansWith, spansWith, segments, segments, scanFrom_congr hstyles]

/-- Two letters are the match of the first rule, although the second one matches there too. The
group inside the first rule has a part in the match, and does not count. -/
theorem exists_owner_pairs : ofLanguage pairs = .ok pairsPattern ∧ pairs.IsAlternation ∧
    ∃ m, pairsPattern.program.search #['b', 'a', 'a'] 0 = .found m ∧ pairsPattern.OwnedBy m 0 := by
  have hl : ofLanguage pairs = .ok pairsPattern := by decide +kernel
  have hfind : pairsPattern.find #['b', 'a', 'a'] 0 = .ok (some ⟨some 0, 1, 3⟩) := by
    decide +kernel
  refine ⟨hl, isAlternation_pairs, ?_⟩
  obtain ⟨m, i, _, hm, hi, howner, _⟩ :=
    (exists_owner hl fun _ => isAlternation_pairs).1 _ 0 _ hfind
  cases howner
  exact ⟨m, hm, hi⟩

/-! ### A match without an owner -/

/-- A language whose first rule ends in a comment. In the combined pattern the comment goes on up
to the end of the line, which is in the second rule. What is left of that rule begins with the
end of the group of the first one. -/
def swallowing : Language :=
  ⟨"swallowing", [], [], [⟨"comment", "(?x)a #", "comment"⟩,
    ⟨"letter", "[\n)|c|(?<letter>b]", "letter"⟩]⟩

/-- The language, ready for use. The alternative in the middle is in no group: the comment that the
first pattern ends in goes on to the line feed in the second, and takes in the bar between the
two. -/
def swallowingPattern : Pattern :=
  let comment : Node := .scope (.literal ['a'] false)
  let letter : Node := .literal ['b', ']'] false
  let body : Node := .alt (.capture 1 comment) (.alt (.literal ['c'] false) (.capture 2 letter))
  ⟨"swallowing", swallowing.combined,
    ⟨body, #[some body, some comment, some letter], [], [],
      [("comment".toList, [1]), ("letter".toList, [2])]⟩,
    [⟨"comment", 1⟩, ⟨"letter", 2⟩]⟩

/-- A match of a compiled language can be without an owner. Here it is that of the alternative which
the comment has cut off from its group. -/
theorem exists_not_owner : ¬ ∀ (l : Language) (p : Pattern) (text : Array Char) (pos : Nat)
    (f : Found), ofLanguage l = .ok p → p.find text pos = .ok (some f) → f.owner ≠ none := by
  intro h
  have hl : ofLanguage swallowing = .ok swallowingPattern := by decide +kernel
  have hfind : swallowingPattern.find #['c'] 0 = .ok (some ⟨none, 0, 1⟩) := by decide +kernel
  exact h swallowing swallowingPattern #['c'] 0 _ hl hfind rfl

end Pattern

end Highlight
