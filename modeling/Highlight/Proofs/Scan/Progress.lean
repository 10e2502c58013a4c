import Highlight.Proofs.Scan.Units

/-!
# `Highlight.Proofs.Scan.Progress`: when a scan ends

A scan searches again and again. `Turn` is one step from a search to the next one, without the
guard of `scanFrom` against steps that lead nowhere, and `SearchAt` numbers the searches.

A search never goes back (`turn_cases`), since a match does not end before the position where the
search for it began. But it need not get on. The start of a match is not bound to that position:
`\K` in a look-behind puts it into the text before. So a match can be not empty and yet end where
the search began (`Stalls`), and the scan finds it again and again.

`scan_ends_iff` is the main statement. Nothing else keeps a scan from its end. Unless a search
stalls, each search begins later than the one before it, there are at most as many searches as
the text has characters, and the scan gives spans. A search that stalls is repeated forever, which
`not_lt_searchAt` shows of a language with one rule.
-/

set_option autoImplicit false

namespace Highlight

section

variable {ε : Type}

/-- In a scan from `start` on, the search with the number `k` begins at `pos`. The first search has
the number 0, and there is none at the end of the text. Searches are numbered from the front, so
that proofs go along the scan. -/
inductive SearchAt (find : Finder ε) (size : Nat) : Nat → Nat → Nat → Prop where
  | first {start : Nat} (h : start < size) : SearchAt find size start 0 start
  | later {start next k pos : Nat} (hturn : Turn find size start next)
      (h : SearchAt find size next k pos) : SearchAt find size start (k + 1) pos

variable {find : Finder ε} {size : Nat}

/-! ### Searches -/

/-- There is still text where a search begins. -/
theorem SearchAt.lt {start k pos : Nat} (h : SearchAt find size start k pos) : pos < size := by
  induction h with
  | first h => exact h
  | later _ _ ih => exact ih

/-- After a search comes the one that its turn leads to. The definition adds searches at the front,
and this adds one at the end. -/
theorem SearchAt.next {start k pos next : Nat} (h : SearchAt find size start k pos)
    (hturn : Turn find size pos next) (hnext : next < size) :
    SearchAt find size start (k + 1) next := by
  induction h with
  | first _ => exact .later hturn (.first hnext)
  | later hfirst _ ih => exact .later hfirst (ih hturn)

/-- A search that stalls is repeated forever: at each later number the same search is made again. -/
theorem SearchAt.add_of_stalls {start k pos : Nat} (h : SearchAt find size start k pos)
    (hstalls : Stalls find pos) (n : Nat) : SearchAt find size start (k + n) pos := by
  induction n with
  | zero => exact h
  | succ n ih => exact ih.next (turn_of_stalls h.lt hstalls) h.lt

/-- If each search leads on, the searches get on by a character at least. So the number of a search
is not greater than the distance that the scan has come. -/
theorem SearchAt.add_le {start k pos : Nat} (h : SearchAt find size start k pos)
    (hon : ∀ k pos next, SearchAt find size start k pos → Turn find size pos next → pos < next) :
    start + k ≤ pos := by
  induction h with
  | first _ => exact Nat.le_refl _
  | @later start next k pos hturn hsearch ih =>
      have hlt := hon 0 start next (.first hturn.1) hturn
      have hle := ih fun k pos next' h => hon (k + 1) pos next' (.later hturn h)
      omega

/-- Four ways to say that a scan gets on: no search stalls, each search begins later than the one
before it, there are fewer searches than the text is long, and there is any bound on their
number. -/
theorem getsOn_tfae (hbounds : find.InBounds size) (hforward : find.Forward) :
    [∀ k pos, SearchAt find size 0 k pos → ¬ Stalls find pos,
      ∀ k pos next, SearchAt find size 0 k pos → Turn find size pos next → pos < next,
      ∀ k pos, SearchAt find size 0 k pos → k < size,
      ∃ n, ∀ k pos, SearchAt find size 0 k pos → k < n].TFAE := by
  tfae_have 1 → 2 := by
    intro hnot k pos next hsearch hturn
    rcases (turn_cases hbounds hforward hturn).2 with hlt | ⟨_, hstalls⟩
    · exact hlt
    · exact absurd hstalls (hnot k pos hsearch)
  tfae_have 2 → 3 := by
    intro hon k pos hsearch
    have hle := hsearch.add_le hon
    have hlt := hsearch.lt
    omega
  tfae_have 3 → 4 := fun hbound => ⟨size, hbound⟩
  -- A search that stalls has all later numbers, and so exceeds any bound.
  tfae_have 4 → 1 := by
    rintro ⟨n, hbound⟩ k pos hsearch hstalls
    have hlt := hbound (k + n) pos (hsearch.add_of_stalls hstalls n)
    omega
  tfae_finish

/-! ### Scans -/

/-- A search that nothing follows is the only one of the scan from its position on. It settles the
three ways in which a scan can end. -/
theorem SearchAt.eq_of_not_turn {start k pos : Nat} (h : SearchAt find size start k pos)
    (hnot : ∀ next, ¬ Turn find size start next) : pos = start := by
  cases h with
  | first _ => rfl
  | later hturn _ => exact absurd hturn (hnot _)

/-- A scan ends if and only if none of its searches stalls or fails. The induction is along the
scan, and each case compares what it does with the searches from its position on. -/
theorem scanFrom_ok_iff (hbounds : find.InBounds size) (hforward : find.Forward) {stalled : ε}
    {merge : Bool} {styleOf : Option Nat → String} (pos : Nat) (c : Cover) :
    (∃ c', scanFrom find stalled size merge styleOf pos c = .ok c') ↔
      ∀ k pos', SearchAt find size pos k pos' →
        ¬ Stalls find pos' ∧ ∃ result, find pos' = .ok result := by
  -- The cases in which the scan ends here have one search each.
  have hsingle : ∀ {pos result}, find pos = .ok result → (∀ next, ¬ Turn find size pos next) →
      pos < size → ∀ k pos', SearchAt find size pos k pos' →
        ¬ Stalls find pos' ∧ ∃ result, find pos' = .ok result := by
    intro pos result hresult hnot hpos k pos' hsearch
    obtain rfl := hsearch.eq_of_not_turn hnot
    exact ⟨fun hstalls => hnot pos' (turn_of_stalls hpos hstalls), result, hresult⟩
  fun_induction scanFrom find stalled size merge styleOf pos c with
  | case1 pos c hlt e herr =>
      constructor
      · rintro ⟨_, h⟩
        cases h
      · intro h
        obtain ⟨_, result, hresult⟩ := h 0 pos (.first hlt)
        rw [herr] at hresult
        cases hresult
  | case2 pos c hlt hnone =>
      refine ⟨fun _ => hsingle hnone ?_ hlt, fun _ => ⟨c, rfl⟩⟩
      rintro next ⟨_, f, hf, _⟩
      rw [hnone] at hf
      cases hf
  | case3 pos c hlt f hf hresume =>
      refine ⟨fun _ => hsingle hf ?_ hlt, fun _ => ⟨c, rfl⟩⟩
      rintro next ⟨_, f', hf', hresume'⟩
      rw [hf] at hf'
      cases hf'
      rw [hresume] at hresume'
      cases hresume'
  | case4 pos c hlt f hf next hresume hnext ih =>
      -- The searches from here on are this one and those from the next position on.
      have hturn : Turn find size pos next := ⟨hlt, f, hf, hresume⟩
      constructor
      · intro h k pos' hsearch
        cases hsearch with
        | first _ =>
            refine ⟨fun hstalls => ?_, some f, hf⟩
            have heq := hturn.unique (turn_of_stalls hlt hstalls)
            omega
        | later hturn' hlater =>
            obtain rfl := hturn.unique hturn'
            exact ih.mp h _ pos' hlater
      · exact fun h => ih.mpr fun k pos' hsearch => h (k + 1) pos' (.later hturn hsearch)
  | case5 pos c hlt f hf next hresume hnext =>
      constructor
      · rintro ⟨_, h⟩
        cases h
      · intro h
        -- The guard was met, so the search has not led on. It stalls then.
        rcases (turn_cases hbounds hforward ⟨hlt, f, hf, hresume⟩).2 with hon | ⟨_, hstalls⟩
        · exact absurd hon hnext
        · exact absurd hstalls (h 0 pos (.first hlt)).1
  | case6 pos c hge =>
      refine ⟨fun _ k pos' hsearch => ?_, fun _ => ⟨c, rfl⟩⟩
      cases hsearch with
      | first hlt => exact absurd hlt hge
      | later hturn _ => exact absurd hturn.1 hge

end

namespace Pattern

/-- A text has spans if and only if the scan of it ends. Making spans of segments does not fail,
whatever the unit is. -/
theorem spans_ok_iff (p : Pattern) (text : String) (options : Options) :
    (∃ s, p.spans text options = .ok s) ↔
      ∃ c, scanFrom (p.find text.toList.toArray) (.endless p.language) text.toList.toArray.size
        options.merge (p.styleOf options.fallback) 0 .empty = .ok c := by
  have hspans := p.spans_with_unit text options options.unit
  rw [show p.spans text options = _ from hspans, segmentsOf, segments]
  cases scanFrom (p.find text.toList.toArray) (.endless p.language) text.toList.toArray.size
    options.merge (p.styleOf options.fallback) 0 .empty <;> simp [Except.map]

end Pattern

/-- A turn of a scan never leads back, and it leads to the same position again only if the search
stalls. As long as none does, each search begins later than the one before it, and there are at
most as many as the text has characters. Otherwise there is no end of them. A text has spans if
and only if none of the searches in it stalls or fails. -/
theorem scan_ends_iff (p : Pattern) (text : String) :
    let find : Finder Error := p.find text.toList.toArray
    (∀ pos next, Turn find text.length pos next →
      next ≤ text.length ∧ (pos < next ∨ next = pos ∧ Stalls find pos)) ∧
    [∀ k pos, SearchAt find text.length 0 k pos → ¬ Stalls find pos,
      ∀ k pos next, SearchAt find text.length 0 k pos → Turn find text.length pos next → pos < next,
      ∀ k pos, SearchAt find text.length 0 k pos → k < text.length,
      ∃ n, ∀ k pos, SearchAt find text.length 0 k pos → k < n].TFAE ∧
    ∀ options, (∃ s, p.spans text options = .ok s) ↔
      ∀ k pos, SearchAt find text.length 0 k pos →
        ¬ Stalls find pos ∧ ∃ result, find pos = .ok result := by
  intro find
  have hsize : text.toList.toArray.size = text.length := by
    rw [List.size_toArray, String.length_toList]
  -- The engine finds matches within the text, and none that ends before the search began.
  have hbounds : find.InBounds text.length := hsize ▸ p.find_inBounds text.toList.toArray
  have hforward : find.Forward := p.find_forward text.toList.toArray
  refine ⟨fun pos next => turn_cases hbounds hforward, getsOn_tfae hbounds hforward, ?_⟩
  intro options
  rw [p.spans_ok_iff, hsize]
  exact scanFrom_ok_iff hbounds hforward 0 .empty

/-! ### A scan without end -/

/-- A language whose rule matches behind a letter and moves the start of the match before it. -/
def backward : Language := ⟨"backward", [], [], [⟨"letter", "(?<=\\Ka)", "letter"⟩]⟩

/-- The language, ready for use. -/
def backwardPattern : Pattern :=
  let body : Regex.Node := .behind true ⟨1, some 1⟩ (.seq .keep (.literal ['a'] false))
  ⟨"backward", backward.combined, ⟨.capture 1 body, #[some (.capture 1 body), some body], [], [],
    [("letter".toList, [1])]⟩, [⟨"letter", 1⟩]⟩

/-- All searches but the first one begin at the same position. The first one finds the letter, and
each later one finds it again, since its start is moved back to where it was. -/
theorem searchAt_backward (k : Nat) :
    SearchAt (backwardPattern.find #['a', 'b']) 2 0 (k + 1) 1 := by
  have hfirst : backwardPattern.find #['a', 'b'] 0 = .ok (some ⟨some 0, 0, 1⟩) := by
    decide +kernel
  have hagain : backwardPattern.find #['a', 'b'] 1 = .ok (some ⟨some 0, 0, 1⟩) := by
    decide +kernel
  -- The search at 1 leads to 1 again. Its number is one more than that of the search at 0.
  have hturn : Turn (backwardPattern.find #['a', 'b']) 2 0 1 := ⟨by decide, _, hfirst, rfl⟩
  have hsearch := SearchAt.later hturn (.first (by decide))
  rw [Nat.add_comm]
  exact hsearch.add_of_stalls ⟨_, hagain, by decide, rfl⟩ k

/-- A compiled language can need more searches than a text has characters. -/
theorem not_lt_searchAt : ¬ ∀ (l : Language) (p : Pattern) (text : String),
    Pattern.ofLanguage l = .ok p →
    ∀ k pos, SearchAt (p.find text.toList.toArray) text.length 0 k pos → k < text.length := by
  intro h
  have hl : Pattern.ofLanguage backward = .ok backwardPattern := by decide +kernel
  exact absurd (h backward backwardPattern "ab" hl 2 1 (searchAt_backward 1)) (by decide)

end Highlight
