import Highlight.Proofs.Regex.Search
import Highlight.Scan

/-!
# `Highlight.Proofs.Scan.Course`: the course of a scan

A scan searches again and again. After a match that is not empty it goes on at the end of the
match, and after an empty one behind the next character. `Turn` is one step of this kind.

`scanFrom` refuses a step that does not get on. So it ends on all inputs, and leaves open what
becomes of a scan that stays where it is, or goes back into the text. `Completes` does without the
guard. It follows each match wherever it leads. It is a relation and not a function, since there
may be no end of it.

The two agree where it matters.

* `completes_of_scanFrom`: what `scanFrom` yields is where the scan leads without the guard.
* `completes_iff`: nothing else is, as long as no match ends before the position where the search
  for it began (`Finder.Forward`). Then the guard only refuses a search that is repeated forever
  (`Completes.not_stalls`).
* `Pattern.find_forward`: the matches of a pattern are of this kind.
-/

set_option autoImplicit false

namespace Highlight

/-- What a search for matches must promise: a match ends in the text, and not before it
begins. It may begin anywhere, even before the position where the search began. -/
def Finder.InBounds {ε : Type} (find : Finder ε) (size : Nat) : Prop :=
  ∀ pos f, find pos = .ok (some f) → f.start ≤ f.stop ∧ f.stop ≤ size

section

variable {ε : Type}

/-- The search at `pos` finds a match after which the next search is to begin at `next`. -/
def Turn (find : Finder ε) (size pos next : Nat) : Prop :=
  pos < size ∧ ∃ f, find pos = .ok (some f) ∧ f.resume? size = some next

/-- The search at `pos` finds a match that is not empty and ends at `pos`. The scan then goes on
where it is, and finds the same match. -/
def Stalls (find : Finder ε) (pos : Nat) : Prop :=
  ∃ f, find pos = .ok (some f) ∧ f.start < f.stop ∧ f.stop = pos

/-- A match does not end before the position where the search for it began. -/
def Finder.Forward (find : Finder ε) : Prop :=
  ∀ pos f, find pos = .ok (some f) → pos ≤ f.stop

/-- A scan from `pos` on, with a cover, comes to its end and has covered the text as the second
cover says. It ends at the end of the text, with a search that finds nothing, or with an empty match
at the end of the text. -/
inductive Completes (find : Finder ε) (size : Nat) (merge : Bool) (styleOf : Option Nat → String) :
    Nat → Cover → Cover → Prop where
  /-- There is no more text. -/
  | atEnd {pos : Nat} {c : Cover} (hge : ¬ pos < size) :
      Completes find size merge styleOf pos c c
  /-- There is no more match. -/
  | missing {pos : Nat} {c : Cover} (hlt : pos < size) (hnone : find pos = .ok none) :
      Completes find size merge styleOf pos c c
  /-- No search is to follow the match. -/
  | last {pos : Nat} {c : Cover} {f : Found} (hlt : pos < size) (hf : find pos = .ok (some f))
      (hresume : f.resume? size = none) : Completes find size merge styleOf pos c c
  /-- A search follows the match, wherever it is to begin. -/
  | turn {pos next : Nat} {c c' : Cover} {f : Found} (hlt : pos < size)
      (hf : find pos = .ok (some f)) (hresume : f.resume? size = some next)
      (h : Completes find size merge styleOf next (c.record merge styleOf f) c') :
      Completes find size merge styleOf pos c c'

variable {find : Finder ε} {size : Nat}

/-! ### Turns -/

/-- What a turn does: it leads on inside the text, unless the search stalls. A match that is not
empty leads to its end, which may be where the search began; an empty one always leads further. -/
theorem turn_cases (hbounds : find.InBounds size) (hforward : find.Forward) {pos next : Nat}
    (h : Turn find size pos next) :
    next ≤ size ∧ (pos < next ∨ next = pos ∧ Stalls find pos) := by
  obtain ⟨_, f, hf, hresume⟩ := h
  have hb := hbounds pos f hf
  have hpos := hforward pos f hf
  unfold Found.resume? at hresume
  split at hresume
  · -- The match is not empty, so the next search begins at its end.
    rename_i hne
    cases hresume
    refine ⟨hb.2, ?_⟩
    rcases Nat.lt_or_eq_of_le hpos with hlt | heq
    · exact Or.inl hlt
    · exact Or.inr ⟨heq.symm, f, hf, hne, heq.symm⟩
  · -- The match is empty, so the next search begins behind the next character.
    split at hresume
    · rename_i hlt
      cases hresume
      exact ⟨hlt, Or.inl (Nat.lt_succ_of_le hpos)⟩
    · cases hresume

/-- A search that stalls leads to itself. -/
theorem turn_of_stalls {pos : Nat} (hpos : pos < size) (h : Stalls find pos) :
    Turn find size pos pos := by
  obtain ⟨f, hf, hne, hstop⟩ := h
  exact ⟨hpos, f, hf, by rw [Found.resume?, if_pos hne, hstop]⟩

/-- There is one way to go on at most, since a search yields one match at most. -/
theorem Turn.unique {pos next next' : Nat} (h : Turn find size pos next)
    (h' : Turn find size pos next') : next = next' := by
  obtain ⟨_, f, hf, hresume⟩ := h
  obtain ⟨_, f', hf', hresume'⟩ := h'
  rw [hf] at hf'
  cases hf'
  exact Option.some.inj (hresume.symm.trans hresume')

/-! ### With the guard and without it -/

variable {stalled : ε} {merge : Bool} {styleOf : Option Nat → String} {pos : Nat} {c c' : Cover}

/-- A scan that the guard of `scanFrom` lets come to its end does so without it. Nothing is asked
of the searches. -/
theorem completes_of_scanFrom (h : scanFrom find stalled size merge styleOf pos c = .ok c') :
    Completes find size merge styleOf pos c c' := by
  fun_induction scanFrom find stalled size merge styleOf pos c with
  | case1 pos c hlt e herr => cases h
  | case2 pos c hlt hnone =>
      cases h
      exact .missing hlt hnone
  | case3 pos c hlt f hf hresume =>
      cases h
      exact .last hlt hf hresume
  | case4 pos c hlt f hf next hresume hnext ih => exact .turn hlt hf hresume (ih h)
  | case5 pos c hlt f hf next hresume hnext => cases h
  | case6 pos c hge =>
      cases h
      exact .atEnd hge

/-- A scan that comes to its end does not stall at its first search: it would be at that search
again, and closer to its end. -/
theorem Completes.not_stalls (h : Completes find size merge styleOf pos c c') (hpos : pos < size) :
    ¬ Stalls find pos := by
  induction h with
  | atEnd hge => exact absurd hpos hge
  | missing _ hnone =>
      rintro ⟨f, hf, _⟩
      rw [hnone] at hf
      cases hf
  | last _ hf hresume =>
      rintro ⟨f', hf', hne, _⟩
      rw [hf] at hf'
      cases hf'
      rw [Found.resume?, if_pos hne] at hresume
      cases hresume
  | turn hlt hf hresume _ ih =>
      intro hstalls
      -- A stalling turn comes back to its own position, where the rest of the run would stall
      -- again.
      obtain rfl := Turn.unique ⟨hlt, _, hf, hresume⟩ (turn_of_stalls hlt hstalls)
      exact ih hpos hstalls

/-- If the searches do not lead back, the guard of `scanFrom` does not keep a scan from its end. A
scan that is stopped by the guard would not have ended. -/
theorem scanFrom_of_completes (hbounds : find.InBounds size) (hforward : find.Forward)
    (h : Completes find size merge styleOf pos c c') :
    scanFrom find stalled size merge styleOf pos c = .ok c' := by
  induction h with
  | atEnd hge => rw [scanFrom, if_neg hge]
  | missing hlt hnone => rw [scanFrom, if_pos hlt, hnone]
  | last hlt hf hresume =>
      rw [scanFrom, if_pos hlt, hf]
      simp only [hresume]
  | @turn pos next c c' f hlt hf hresume hrest ih =>
      -- The guard asks for a step forward. The only other step is that of a search that stalls.
      have hnext : pos < next := by
        rcases (turn_cases hbounds hforward ⟨hlt, f, hf, hresume⟩).2 with hon | ⟨_, hstalls⟩
        · exact hon
        · exact absurd hstalls ((Completes.turn hlt hf hresume hrest).not_stalls hlt)
      rw [scanFrom, if_pos hlt, hf]
      simp only [hresume, if_pos hnext]
      exact ih

/-- For searches that do not lead back, `scanFrom` yields all there is to yield. -/
theorem completes_iff (hbounds : find.InBounds size) (hforward : find.Forward) :
    Completes find size merge styleOf pos c c' ↔
      scanFrom find stalled size merge styleOf pos c = .ok c' :=
  ⟨scanFrom_of_completes hbounds hforward, completes_of_scanFrom⟩

end

namespace Pattern

/-- The matches of a pattern keep to the text. It is what the invariant of the machine says of the
place where an attempt ends. -/
theorem find_inBounds (p : Pattern) (text : Array Char) :
    Finder.InBounds (p.find text) text.size := by
  intro pos f hf
  unfold Pattern.find at hf
  split at hf
  · rename_i m hm
    cases hf
    have h := Regex.Program.search_bounds hm
    exact ⟨h.1, h.2.2⟩
  · cases hf
  · cases hf

/-- The matches of a pattern do not end before the position where the search began. They may begin
before it, if the pattern resets the start of its match. -/
theorem find_forward (p : Pattern) (text : Array Char) : Finder.Forward (p.find text) := by
  intro pos f hf
  unfold find at hf
  split at hf
  · rename_i m hm
    cases hf
    exact (Regex.Program.search_bounds hm).2.1
  · cases hf
  · cases hf

end Pattern

end Highlight
