import Highlight.Proofs.Alternation
import Highlight.Proofs.Regex.Capture
import Highlight.Proofs.Regex.Search

/-!
# `Highlight.Proofs.Priority`: which rule a match belongs to

A search of a compiled language runs one program for all its rules. It learns the rule that a
match belongs to from the groups that have a part in the match. Here this is compared with what
the rules do on their own: `Pattern.RuleEnds` is the outcome of a single rule at a position.

`Pattern.find_isLeftmost` is the main statement. The match is at the first position where a rule
matches, it is the match of the first rule that matches there, and it belongs to that rule.
Neither the groups inside the rules nor the length of the matches make a difference.

There is one exception. A rule can give up an attempt, as `(*MISMATCH)` does, and the rules after
it then do not get their turn at that position. `Pattern.Decided` accounts for this, and
`Pattern.missing_beside_match` shows that it has to be accounted for.

The proof goes from one attempt to the search:

* `attempt_cases`: an attempt ends as the first rule that does not fail.
* `Grouped.ownedBy`: the match of a rule belongs to it. The group of the rule has been left on the
  way to the match, and no group of another rule has been entered.
* `isLeftmost_of_attempts`: the search is as its attempts are.
-/

set_option autoImplicit false

namespace Highlight

open Regex (Node Outcome Program Setting State Syntax)

/-! ### Spans of alternatives -/

namespace Regex.Separated

variable {p : Program} {alts : List (Nat × Node)} {text : Array Char} {pos at' : Nat}
  {a : Nat × Node} {st : State}

/-- After a match of one alternative, no other alternative has a span. Its group has not been
entered, neither directly nor by a call. -/
theorem span?_other (hsep : Separated p alts) (ha : a ∈ alts) {g : Nat} (hg : g ∈ alts.map (·.1))
    (hne : g ≠ a.1) (hat : at' ≤ text.size)
    (h : Setting.Ends ⟨p, text, pos⟩ [.node (.capture a.1 a.2)] (Program.initialState text at')
      (.matched st)) : st.span? g = none := by
  -- The groups that the alternative leads to are its own and those inside alternatives.
  let A : Nat → Prop := fun k => Inner (alts.map (·.1)) k ∨ k = a.1
  have hinner : ∀ n : Node, n.Within (Inner (alts.map (·.1))) → n.Within A :=
    fun n hn => hn.mono (fun _ => Or.inl) fun _ => Or.inl
  -- A call leads to a group inside some alternative, and from there to others of that kind.
  have hclosed : Setting.Closed ⟨p, text, pos⟩ A := by
    intro k body hk hbody
    refine hinner body (hsep.closed k body ?_ hbody)
    rcases hk with hk | rfl
    · exact hk.1
    · exact hsep.positive a ha
  have hnot : ¬ A g := by
    rintro (hg' | hg')
    · exact hg'.2 hg
    · exact hne hg'
  have hwithin : (Node.capture a.1 a.2).Within A :=
    And.intro (Or.inr rfl) (hinner a.2 (hsep.within a ha))
  exact Setting.span?_of_ends hclosed hwithin
    (Program.initialState_sound (Nat.zero_le _) hat) h hnot

end Regex.Separated

/-! ### No rules -/

namespace Regex.Program

/-- The program of `Language.neverPattern`: a look-ahead that excludes a letter, and then that
letter. -/
def never : Program :=
  let body : Node := .seq (.ahead false (.literal ['x'] false)) (.literal ['x'] false)
  ⟨body, #[some body], [], [], []⟩

/-- It is what the pattern is read as. -/
theorem ofPattern_neverPattern : ofPattern Language.neverPattern.toList = .ok never := by
  decide +kernel

/-- It matches nowhere: the look-ahead excludes what has to follow. Six moves are enough to see
it. -/
theorem attempt_never (text : Array Char) (pos i : Nat) :
    never.attempt text pos i = .failed := by
  have hrun : Setting.run ⟨never, text, pos⟩ 6 [.node never.body] (initialState text i) []
      = .failed := by
    cases hx : Setting.literalEnd ⟨never, text, pos⟩ text.size ['x'] i with
    | none =>
        -- The look-ahead succeeds, and the character does not follow.
        simp only [never] at hx
        simp [Setting.run, Setting.step, Setting.matchNode, Setting.afterTest, Setting.afterRun,
          Setting.moveTo, Setting.pending, Ways.next, Ways.done, Ways.back, never, initialState,
          hx]
    | some j =>
        -- The look-ahead fails.
        simp only [never] at hx
        simp [Setting.run, Setting.step, Setting.matchNode, Setting.afterTest, Setting.afterRun,
          Setting.moveTo, Setting.pending, Ways.next, Ways.done, Ways.back, never, initialState,
          hx]
  have hne : Setting.run ⟨never, text, pos⟩ 6 [.node never.body] (initialState text i) []
      ≠ .exhausted := by
    rw [hrun]
    exact Outcome.noConfusion
  have hfuel : 6 ≤ attemptFuel := by decide
  exact (Setting.run_mono hfuel hne).trans hrun

end Regex.Program

/-! ### Rules on their own -/

namespace Pattern

/-- The pattern of a rule in its group, as it stands in the combined pattern. It is looked up by the
index of the rule among the alternatives of the program. -/
def wrapped? (p : Pattern) (i : Nat) : Option Node :=
  ((p.rules.zip (Regex.LookBehind.alternatives p.program.body))[i]?).map (·.2)

variable (p : Pattern) (text : Array Char) (pos : Nat)

/-- Tried on its own at a position, the pattern of a rule in its group ends with an outcome. `pos`
is where the search began, which patterns can ask for. -/
def RuleEnds (at' i : Nat) (o : Outcome) : Prop :=
  ∃ n, p.wrapped? i = some n ∧
    Setting.Ends ⟨p.program, text, pos⟩ [.node n] (Program.initialState text at') o

/-- A rule matches at a position on its own, and the match leads to a state. -/
def Matches (at' i : Nat) (st : State) : Prop := p.RuleEnds text pos at' i (.matched st)

/-- A rule gives up the attempt to match at a position, for itself and for the rules after it. -/
def GivesUp (at' i : Nat) : Prop := p.RuleEnds text pos at' i .abandoned

/-- At a position, some rule matches and none before it gives up. These are the positions where a
search may find something. -/
def Decided (at' : Nat) : Prop :=
  ∃ i st, p.Matches text pos at' i st ∧ ∀ j, j < i → ¬ p.GivesUp text pos at' j

variable {p text pos}

/-- A rule has one outcome at a position. -/
theorem RuleEnds.unique {at' i : Nat} {o o' : Outcome} (h : p.RuleEnds text pos at' i o)
    (h' : p.RuleEnds text pos at' i o') : o = o' := by
  obtain ⟨n, hn, hends⟩ := h
  obtain ⟨n', hn', hends'⟩ := h'
  obtain rfl : n = n' := Option.some.inj (hn.symm.trans hn')
  exact hends.unique hends'

/-! ### Owners -/

/-- Of the groups of the rules, only that of the rule at an index has a part in a match. Groups
inside rules may have one as well. -/
structure OwnedBy (p : Pattern) (m : Regex.Match) (i : Nat) : Prop where
  lt : i < p.rules.length
  has_iff : ∀ j c, p.rules[j]? = some c → (m.has c.group = true ↔ j = i)

/-- Such a match belongs to that rule. The owner is the first rule with a part, and no rule before
it has one. -/
theorem OwnedBy.ownerOf_eq_some {m : Regex.Match} {i : Nat} (h : p.OwnedBy m i) :
    p.ownerOf m = some i := by
  refine List.findIdx?_eq_some_iff_getElem.mpr ⟨h.lt, ?_, ?_⟩
  · exact (h.has_iff i _ (List.getElem?_eq_getElem h.lt)).mpr rfl
  · intro j hj hhas
    have hget := List.getElem?_eq_getElem (Nat.lt_trans hj h.lt)
    exact Nat.ne_of_lt hj ((h.has_iff j _ hget).mp hhas)

/-! ### Attempts -/

namespace Grouped

variable {alts : List (Nat × Node)} {at' i : Nat} {o : Outcome} {st : State}

/-- There are as many alternatives as rules. -/
theorem length_eq (h : p.Grouped alts) : alts.length = p.rules.length := by
  simpa using congrArg List.length h.groups

/-- The alternatives and the rules have the same groups, at the same indices. -/
theorem getElem?_group (h : p.Grouped alts) {c : CompiledRule} (hc : p.rules[i]? = some c) :
    (alts.map (·.1))[i]? = some c.group := by
  rw [h.groups, List.getElem?_map, hc]
  rfl

/-- The pattern of a rule in its group is an alternative of the program. The alternatives have the
order of the rules, and there are as many of them. -/
theorem wrapped?_eq (h : p.Grouped alts) (i : Nat) :
    p.wrapped? i = (alts[i]?).map fun a => Node.capture a.1 a.2 := by
  have halternatives : Regex.LookBehind.alternatives p.program.body
      = alts.map fun a => Node.capture a.1 a.2 := by
    rw [h.separated.body, Regex.LookBehind.alternatives_ofGroups h.nonempty]
  have hlength : (alts.map fun a => Node.capture a.1 a.2).length ≤ p.rules.length :=
    Nat.le_of_eq (by rw [List.length_map, h.length_eq])
  rw [wrapped?, halternatives, ← List.getElem?_map, List.map_snd_zip hlength, List.getElem?_map]

/-- An attempt ends as the first rule that does not fail there, or fails because all rules do. It
says nothing of attempts that take too long, which have no outcome. -/
theorem attempt_cases (h : p.Grouped alts) (hattempt : p.program.attempt text pos at' = o)
    (ho : o ≠ .exhausted) :
    (o ≠ .failed ∧ ∃ i, p.RuleEnds text pos at' i o ∧
      ∀ j, j < i → p.RuleEnds text pos at' j .failed) ∨
    (o = .failed ∧ ∀ j o', p.RuleEnds text pos at' j o' → o' = .failed) := by
  -- The attempt runs the whole program, whose body is the list of the wrapped rules.
  have hends : Setting.Ends ⟨p.program, text, pos⟩ [.node p.program.body]
      (Program.initialState text at') o := ⟨ho, Program.attemptFuel, hattempt⟩
  have hwrapped : ∀ j, p.wrapped? j = (alts.map fun a => Node.capture a.1 a.2)[j]? := by
    intro j
    rw [h.wrapped?_eq, List.getElem?_map]
  rw [h.separated.body] at hends
  rcases Setting.ends_ofAlts (by simpa using h.nonempty) hends with
    ⟨hfailed, i, n, hi, hn, hbefore⟩ | ⟨hfailed, hall⟩
  · -- The first rule that does not fail decides, and its place in the body is its place in the
    -- language.
    refine Or.inl ⟨hfailed, i, ⟨n, (hwrapped i).trans hi, hn⟩, ?_⟩
    intro j hj
    obtain ⟨hlt, _⟩ := List.getElem?_eq_some_iff.mp hi
    have hget := List.getElem?_eq_getElem (Nat.lt_trans hj hlt)
    exact ⟨_, (hwrapped j).trans hget, hbefore j _ hj hget⟩
  · -- All rules fail, so no rule can end in another way.
    refine Or.inr ⟨hfailed, ?_⟩
    intro j o' hj
    obtain ⟨n, hn, hends'⟩ := hj
    rw [hwrapped j] at hn
    exact hends'.unique (hall n (List.mem_of_getElem? hn))

/-- An attempt that matches does so with the first rule that does not fail. -/
theorem matches_of_attempt (h : p.Grouped alts)
    (hattempt : p.program.attempt text pos at' = .matched st) :
    ∃ i, p.Matches text pos at' i st ∧ ∀ j, j < i → p.RuleEnds text pos at' j .failed := by
  rcases h.attempt_cases hattempt Outcome.noConfusion with ⟨_, hfirst⟩ | ⟨hfailed, _⟩
  · exact hfirst
  · cases hfailed

/-- Where an attempt comes to an end without a match, the position is not decided: all rules fail,
or one gives up before any other matches. -/
theorem not_decided_of_attempt (h : p.Grouped alts)
    (hmissed : (p.program.attempt text pos at').Missed) : ¬ p.Decided text pos at' := by
  rintro ⟨i, st, hi, hbefore⟩
  rcases hmissed with hattempt | hattempt
  · rcases h.attempt_cases hattempt Outcome.noConfusion with ⟨hne, _⟩ | ⟨_, hall⟩
    · exact hne rfl
    · cases hall i _ hi
  · rcases h.attempt_cases hattempt Outcome.noConfusion with ⟨_, k, hk, hfailed⟩ | ⟨hk, _⟩
    · -- The rule that gives up is the first one that does not fail, so it is not after `i`.
      rcases Nat.lt_trichotomy i k with hlt | rfl | hlt
      · cases (hfailed i hlt).unique hi
      · cases hk.unique hi
      · exact hbefore k hlt hk
    · cases hk

/-- In the match of a rule, its group has a part and those of the other rules have none. The groups
of the rules are distinct and not inside each other, so no other one has been entered on the way. -/
theorem ownedBy (h : p.Grouped alts) (hat : at' ≤ text.size)
    (hmatches : p.Matches text pos at' i st) : p.OwnedBy (.ofState st) i := by
  obtain ⟨n, hn, hends⟩ := hmatches
  rw [h.wrapped?_eq] at hn
  obtain ⟨a, ha, rfl⟩ := Option.map_eq_some_iff.mp hn
  have hlt : i < p.rules.length := h.length_eq ▸ (List.getElem?_eq_some_iff.mp ha).1
  have hfirst : (alts.map (·.1))[i]? = some a.1 := by
    rw [List.getElem?_map, ha]
    rfl
  refine ⟨hlt, ?_⟩
  intro j c hc
  have hj := h.getElem?_group hc
  show (st.span? c.group).isSome = true ↔ j = i
  constructor
  · -- The group of another rule has another number, so it has not been entered.
    intro hsome
    by_contra hne
    have hother : c.group ≠ a.1 := by
      intro heq
      have hget : (alts.map (·.1))[j]? = (alts.map (·.1))[i]? := by rw [hj, hfirst, heq]
      have hbound := (List.getElem?_eq_some_iff.mp hj).1
      exact hne ((List.getElem?_inj hbound h.separated.distinct).mp hget)
    rw [h.separated.span?_other (List.mem_of_getElem? ha) (List.mem_of_getElem? hj) hother hat
      hends] at hsome
    cases hsome
  · -- The group of the rule has been left on the way to the match.
    rintro rfl
    have hgroup : c.group = a.1 := Option.some.inj (hj.symm.trans hfirst)
    rw [hgroup]
    refine Setting.span?_of_ends_capture ⟨?_, ?_⟩ hends
    · exact Setting.frames_one (Setting.node_sound (Node.within_true _))
    · exact Program.initialState_sound (Nat.zero_le _) hat

end Grouped

/-! ### Searches -/

/-- What a search from a position on should yield: nothing if no position up to the end of the
text is decided, and otherwise the match of the first rule that matches at the first position
that is decided. -/
structure IsLeftmost (p : Pattern) (text : Array Char) (pos : Nat) (result : Option Found) :
    Prop where
  none_iff : result = none ↔ ∀ at', pos ≤ at' → at' ≤ text.size → ¬ p.Decided text pos at'
  some : ∀ f, result = some f → ∃ at' i st, pos ≤ at' ∧ at' ≤ text.size ∧
    p.Decided text pos at' ∧
    (∀ before, pos ≤ before → before < at' → ¬ p.Decided text pos before) ∧
    p.Matches text pos at' i st ∧
    (∀ j, j < i → ∀ st', ¬ p.Matches text pos at' j st') ∧
    f = ⟨some i, min st.start st.pos, st.pos⟩

/-- It is enough to look at the attempts: the rules before the owner of a match fail, and a
position without a match is not decided. -/
theorem isLeftmost_of_attempts {result : Option Found}
    (hmatched : ∀ at' st, at' ≤ text.size → p.program.attempt text pos at' = .matched st →
      ∃ i, p.ownerOf (.ofState st) = some i ∧ p.Matches text pos at' i st ∧
        ∀ j, j < i → p.RuleEnds text pos at' j .failed)
    (hmissed : ∀ at', (p.program.attempt text pos at').Missed → ¬ p.Decided text pos at')
    (h : p.find text pos = .ok result) : p.IsLeftmost text pos result := by
  unfold find at h
  split at h
  · rename_i m hm
    cases h
    -- The search found a match at `at'`, and the attempts before it missed.
    obtain ⟨at', hle, hsize, ⟨st, hst, rfl⟩, hbefore⟩ := Program.search_found hm
    obtain ⟨i, howner, hi, hfailed⟩ := hmatched at' st hsize hst
    have hdecided : p.Decided text pos at' := by
      refine ⟨i, st, hi, ?_⟩
      intro j hj hgives
      cases (hfailed j hj).unique hgives
    have hfirst : ∀ before, pos ≤ before → before < at' → ¬ p.Decided text pos before :=
      fun before hpos hlt => hmissed before (hbefore before hpos hlt)
    -- The rules before the owner failed here, and a rule ends in one way only.
    have hlowest : ∀ j, j < i → ∀ st', ¬ p.Matches text pos at' j st' := by
      intro j hj st' hj'
      cases (hfailed j hj).unique hj'
    constructor
    · constructor
      · intro hnone
        cases hnone
      · intro hnone
        exact absurd hdecided (hnone at' hle hsize)
    · intro f hf
      cases hf
      refine ⟨at', i, st, hle, hsize, hdecided, hfirst, hi, hlowest, ?_⟩
      rw [howner]
      rfl
  · rename_i hm
    cases h
    constructor
    · have hnone : ∀ at', pos ≤ at' → at' ≤ text.size → ¬ p.Decided text pos at' :=
        fun at' hle hsize => hmissed at' (Program.search_missing hm at' hle hsize)
      exact ⟨fun _ => hnone, fun _ => rfl⟩
    · intro f hf
      cases hf
  · cases h

/-- The program of a language without rules is the one that matches nowhere. -/
theorem Compiles.program_eq_never {l : Language} (h : Compiles l p) (hempty : l.rules = []) :
    p.program = Program.never := by
  have hread := h.program
  rw [Language.combined, Language.isEmpty, hempty] at hread
  exact Except.ok.inj (hread.symm.trans Program.ofPattern_neverPattern)

/-- A language without rules decides nothing, and finds nothing. It is not an alternation of its
rules, so it needs an argument of its own. -/
theorem isLeftmost_of_isEmpty {l : Language} {result : Option Found}
    (hcompiles : Compiles l p) (hempty : l.rules = []) (h : p.find text pos = .ok result) :
    p.IsLeftmost text pos result := by
  have hrules : p.rules = [] := List.forall₂_nil_left_iff.mp (hempty ▸ hcompiles.rules)
  refine isLeftmost_of_attempts ?_ ?_ h
  · intro at' st _ hst
    rw [hcompiles.program_eq_never hempty, Program.attempt_never] at hst
    cases hst
  · rintro at' - ⟨i, st, ⟨n, hn, _⟩, _⟩
    rw [wrapped?, hrules] at hn
    cases hn

/-- A search of a language finds the leftmost match, and it belongs to the first rule that matches
there. The pattern of a rule in its group is the one with the group of the rule.

A position is decided if a rule matches there and no rule before it gives up. That is all that
`MISMATCH` changes: without it, a position is decided if and only if some rule matches there. An
attempt tries the rules in their order, and the first one that does not fail ends it. -/
theorem find_isLeftmost {l : Language} {result : Option Found} (hl : ofLanguage l = .ok p)
    (hreads : l.rules ≠ [] → l.IsAlternation) (h : p.find text pos = .ok result) :
    (∀ i r, l.rules[i]? = some r → ∃ g body, p.program.groupsNamed r.group.toList = [g] ∧
      p.wrapped? i = some (.capture g body)) ∧
    p.IsLeftmost text pos result := by
  have hcompiles := ofLanguage_eq_ok hl
  -- A language without rules is no alternation of theirs, and is treated apart.
  by_cases hempty : l.rules = []
  · refine ⟨?_, isLeftmost_of_isEmpty hcompiles hempty h⟩
    intro i r hr
    rw [hempty] at hr
    cases hr
  · obtain ⟨alts, hgrouped⟩ := grouped_of_language hl (hreads hempty) hempty
    constructor
    · intro i r hr
      obtain ⟨c, hc, _, hgroup⟩ := getElem?_of_forall₂ hcompiles.rules hr
      have hi := hgrouped.getElem?_group hc
      rw [List.getElem?_map] at hi
      obtain ⟨a, ha, hac⟩ := Option.map_eq_some_iff.mp hi
      refine ⟨c.group, a.2, hgroup, ?_⟩
      rw [hgrouped.wrapped?_eq, ha, ← hac]
      rfl
    · refine isLeftmost_of_attempts ?_ ?_ h
      · intro at' st hsize hst
        obtain ⟨i, hi, hfailed⟩ := hgrouped.matches_of_attempt hst
        exact ⟨i, (hgrouped.ownedBy hsize hi).ownerOf_eq_some, hi, hfailed⟩
      · intro at' hmissed
        exact hgrouped.not_decided_of_attempt hmissed

/-- A language with a group inside its first rule. The second rule matches wherever the first one
does, and never has its turn there. -/
def pairs : Language :=
  ⟨"pairs", [], [], [⟨"pair", "(?<c>a)\\k<c>", "pair"⟩, ⟨"letter", "a", "letter"⟩]⟩

/-- The groups of its rules, with what is in them. -/
def pairsGroups : List (Nat × Node) :=
  [(1, .seq (.capture 2 (.literal ['a'] false)) (.backref [2] false none)),
    (3, .literal ['a'] false)]

/-- The language, ready for use. The groups of the rules are numbered 1 and 3. -/
def pairsPattern : Pattern :=
  ⟨"pairs", pairs.combined, ⟨Node.ofGroups pairsGroups,
    #[some (Node.ofGroups pairsGroups),
      some (.seq (.capture 2 (.literal ['a'] false)) (.backref [2] false none)),
      some (.literal ['a'] false), some (.literal ['a'] false)],
    [], [2], [("pair".toList, [1]), ("c".toList, [2]), ("letter".toList, [3])]⟩,
    [⟨"pair", 1⟩, ⟨"letter", 3⟩]⟩

/-- Its combined pattern is read as the alternation of its rules. One rule has a group of its own
inside, and refers back to it by name. -/
theorem isAlternation_pairs : pairs.IsAlternation := by
  refine ⟨⟨Node.ofGroups pairsGroups,
    ⟨3, 3, [("pair".toList, [1]), ("c".toList, [2]), ("letter".toList, [3])]⟩, [], false, 2⟩,
    pairsGroups, by decide +kernel, rfl, .cons ⟨by decide, ?_⟩ (.cons ⟨by decide, ?_⟩ .nil)⟩
  · refine ⟨⟨.seq (.capture 1 (.literal ['a'] false)) (.backref [1] false none),
      ⟨1, 1, [("c".toList, [1])]⟩, [], false, 1⟩, by decide +kernel, by decide, ?_⟩
    exact ⟨⟨trivial, trivial⟩, trivial⟩
  · exact ⟨⟨.literal ['a'] false, ⟨0, 0, []⟩, [], false, 0⟩, by decide +kernel, by decide, trivial⟩

/-- The match is that of the first rule, behind a letter that neither rule matches. -/
theorem pairs_isLeftmost : ofLanguage pairs = .ok pairsPattern ∧ pairs.IsAlternation ∧
    pairsPattern.IsLeftmost #['b', 'a', 'a'] 0 (some ⟨some 0, 1, 3⟩) := by
  have hl : ofLanguage pairs = .ok pairsPattern := by decide +kernel
  have h : pairsPattern.find #['b', 'a', 'a'] 0 = .ok (some ⟨some 0, 1, 3⟩) := by decide +kernel
  exact ⟨hl, isAlternation_pairs, (find_isLeftmost hl (fun _ => isAlternation_pairs) h).2⟩

/-! ### Giving up -/

/-- A language whose first rule gives up every attempt. -/
def quitting : Language :=
  ⟨"quitting", [], [], [⟨"quit", "(*MISMATCH)", "quit"⟩, ⟨"letter", "a", "letter"⟩]⟩

/-- The groups of its rules, with what is in them. -/
def quittingGroups : List (Nat × Node) := [(1, .abandon), (2, .literal ['a'] false)]

/-- The language, ready for use. -/
def quittingPattern : Pattern :=
  ⟨"quitting", quitting.combined, ⟨Node.ofGroups quittingGroups,
    #[some (Node.ofGroups quittingGroups), some .abandon, some (.literal ['a'] false)],
    [], [], [("quit".toList, [1]), ("letter".toList, [2])]⟩, [⟨"quit", 1⟩, ⟨"letter", 2⟩]⟩

/-- Its combined pattern is read as the alternation of its rules as well. -/
theorem isAlternation_quitting : quitting.IsAlternation := by
  refine ⟨⟨Node.ofGroups quittingGroups,
    ⟨2, 2, [("quit".toList, [1]), ("letter".toList, [2])]⟩, [], false, 0⟩,
    quittingGroups, by decide +kernel, rfl, .cons ⟨by decide, ?_⟩ (.cons ⟨by decide, ?_⟩ .nil)⟩
  · exact ⟨⟨.abandon, ⟨0, 0, []⟩, [], false, 0⟩, by decide +kernel, by decide, trivial⟩
  · exact ⟨⟨.literal ['a'] false, ⟨0, 0, []⟩, [], false, 0⟩, by decide +kernel, by decide, trivial⟩

/-- It is not enough for a match that some rule matches somewhere. The second rule does so at the
first position, and nothing is found there: the first rule has given up the position for both. -/
theorem missing_beside_match : ¬ ∀ (l : Language) (p : Pattern) (text : Array Char) (pos : Nat)
    (result : Option Found), ofLanguage l = .ok p → (l.rules ≠ [] → l.IsAlternation) →
    p.find text pos = .ok result →
    (result = none ↔
      ∀ at' i st, pos ≤ at' → at' ≤ text.size → ¬ p.Matches text pos at' i st) := by
  intro h
  have hl : ofLanguage quitting = .ok quittingPattern := by decide +kernel
  have hfind : quittingPattern.find #['a'] 0 = .ok none := by decide +kernel
  have hletter : quittingPattern.Matches #['a'] 0 0 1
      ⟨1, 1, 0, [.closed 2 0 1, .opened 2 0], 0, []⟩ :=
    ⟨.capture 2 (.literal ['a'] false), rfl, Outcome.noConfusion, 5, rfl⟩
  have hnone := (h _ _ _ _ _ hl (fun _ => isAlternation_quitting) hfind).mp rfl
  exact hnone 0 1 _ (Nat.le_refl 0) (Nat.zero_le 1) hletter

end Pattern

end Highlight
