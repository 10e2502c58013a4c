import Highlight.Regex.Machine

/-!
# `Highlight.Proofs.Regex.Run`: fuel and choices

The machine is a loop with fuel that carries a stack of choices. This file takes both out of
the statements about it.

* `run_mono`: more fuel settles a run that was not settled, and changes nothing else. So a run
  has at most one outcome, and `Setting.Ends` speaks of it without naming the fuel.
* `run_append`: choices at the bottom of the stack are not looked at before everything above
  them has failed. `resume` is the run that then goes on with them.
* `ends_ofAlts`: alternatives end as the first one that does not fail. Nothing is left of those
  before it: each starts in the state in which the first one did.
-/

set_option autoImplicit false

namespace Highlight.Regex

/-- With more fuel, an outcome stays as it is or is found at all. Only running out of fuel is below
the other outcomes. -/
def Outcome.Le (o o' : Outcome) : Prop := o = .exhausted ∨ o = o'

/-- The same of the ways to do what a frame asks for. A frame may run a machine of its own to find
them. -/
def Ways.Le (w w' : Ways) : Prop := w = .exhausted ∨ w = w'

namespace Setting

variable {s : Setting}

/-- Goes on with the latest choice, or fails if there is none left. -/
def resume (s : Setting) (fuel : Nat) : List Choice → Outcome
  | [] => .failed
  | (frames, st) :: choices => s.run fuel frames st choices

/-- Without fuel a run has no outcome. -/
@[simp] theorem run_zero (frames : List Frame) (st : State) (cs : List Choice) :
    s.run 0 frames st cs = .exhausted := rfl

/-- With nothing left to do a run has matched. -/
@[simp] theorem run_nil (n : Nat) (st : State) (cs : List Choice) :
    s.run (n + 1) [] st cs = .matched st := rfl

/-- One move: a frame is replaced by the ways to do it, and the first choice is taken. All proofs
about runs go by this equation. -/
theorem run_cons (n : Nat) (f : Frame) (frames : List Frame) (st : State) (cs : List Choice) :
    s.run (n + 1) (f :: frames) st cs
      = match s.step (fun fs st' => s.run n fs st' []) f st with
        | .abandoned => .abandoned
        | .exhausted => .exhausted
        | .go ways => s.resume n (pending ways frames cs) := by
  rw [run]
  cases s.step (fun fs st' => s.run n fs st' []) f st with
  | abandoned => rfl
  | exhausted => rfl
  | go ways =>
      dsimp only
      cases pending ways frames cs <;> rfl

/-- Choices that were open before stay below those that a step adds. -/
theorem pending_append (ways : List Choice) (frames : List Frame) (cs ds : List Choice) :
    pending ways frames (cs ++ ds) = pending ways frames cs ++ ds := by
  unfold pending
  rw [List.append_assoc]

/-! ### Fuel -/

section Fuel

variable {sub sub' : List Frame → State → Outcome}

/-- With more fuel for its attempts, a look-behind does not change. It tries one position after
another, and stops at the first attempt that does not fail. -/
theorem lookBack_le (h : ∀ fs st, (sub fs st).Le (sub' fs st)) (body : Node) (st : State)
    (n back : Nat) : (lookBack sub body st n back).Le (lookBack sub' body st n back) := by
  induction n generalizing back with
  | zero => exact Or.inr rfl
  | succ n ih =>
      unfold lookBack
      split
      · exact Or.inr rfl
      · -- Either this attempt has run out of fuel, or it stays as it is.
        rcases h [.node body, .expect st.pos] { st with pos := st.pos - back, limit := st.pos }
          with hsub | hsub
        · rw [hsub]
          exact Or.inl rfl
        · rw [hsub]
          split
          · exact ih (back + 1)
          · exact Or.inr rfl

/-- A look-behind of one length has one attempt only. One of several lengths tries them in turn,
with more fuel for each. -/
theorem lookBehind_le (h : ∀ fs st, (sub fs st).Le (sub' fs st)) (reach : Reach) (body : Node)
    (st : State) : (lookBehind sub reach body st).Le (lookBehind sub' reach body st) := by
  unfold lookBehind
  split
  · split
    · exact Or.inr rfl
    · exact h _ _
  · exact lookBack_le h body st _ _

/-- With more fuel, the first position where a node matches is found or stays. It is unknown if one
of the runs has not had enough fuel before. -/
theorem firstMatch_le (h : ∀ fs st, (sub fs st).Le (sub' fs st)) (body : Node) (st : State)
    (n i : Nat) :
    firstMatch sub body st n i = none ∨
      firstMatch sub body st n i = firstMatch sub' body st n i := by
  induction n generalizing i with
  | zero => exact Or.inr rfl
  | succ n ih =>
      unfold firstMatch
      -- The first run that has not enough fuel ends the search.
      rcases h [.node body] { st with pos := i } with hsub | hsub
      · rw [hsub]
        exact Or.inl rfl
      · rw [hsub]
        split
        · exact Or.inr rfl
        · exact Or.inr rfl
        · exact ih (i + 1)

/-- So it is with the end of a text in which a node does not occur. The ways depend on that end, and
on nothing else that has to do with fuel. -/
theorem upTo_le (h : ∀ fs st, (sub fs st).Le (sub' fs st)) (body : Node) (st : State)
    (ways : Nat → Ways) : (upTo sub body st ways).Le (upTo sub' body st ways) := by
  unfold upTo
  rcases firstMatch_le h body st (st.limit - st.pos) st.pos with hfirst | hfirst
  · rw [hfirst]
    exact Or.inl rfl
  · rw [hfirst]
    exact Or.inr rfl

/-- What is done after a run of its own depends on the outcome of that run. -/
theorem afterRun_le {o o' : Outcome} (h : o.Le o') (matched : State → Ways) (failed : Ways) :
    (afterRun o matched failed).Le (afterRun o' matched failed) := by
  rcases h with rfl | rfl
  · exact Or.inl rfl
  · exact Or.inr rfl

/-- So does what is done after a look-around, a positive or a negative one. -/
theorem afterTest_le {o o' : Outcome} (h : o.Le o') (positive : Bool) (st : State) :
    (afterTest positive o st).Le (afterTest positive o' st) := by
  cases positive
  · exact afterRun_le h _ _
  · exact afterRun_le h _ _

/-- With more fuel, the ways to match a node are found or stay. Most nodes run no machine of their
own. -/
theorem matchNode_le (h : ∀ fs st, (sub fs st).Le (sub' fs st)) (n : Node) (st : State) :
    (s.matchNode sub n st).Le (s.matchNode sub' n st) := by
  cases n with
  | atomic body => exact afterRun_le (h _ _) _ _
  | cond test yes no => exact afterRun_le (h _ _) _ _
  | ahead positive body => exact afterTest_le (h _ _) positive st
  | behind positive reach body => exact afterTest_le (lookBehind_le h reach body st) positive st
  | absent body => exact upTo_le h body st _
  | absentIn body inner => exact upTo_le h body st _
  | absentCut body => exact upTo_le h body st _
  -- The rest runs nothing inside, so the fuel of inner runs does not matter.
  | literal cs fold => cases fold <;> exact Or.inr rfl
  | many body least most greedy =>
      rcases least with _ | least
      · rcases most with _ | most | most <;> exact Or.inr rfl
      · exact Or.inr rfl
  | backref groups fold level => cases level <;> exact Or.inr rfl
  | isSet groups level => cases level <;> exact Or.inr rfl
  | checkpoint counter most => cases most <;> exact Or.inr rfl
  | empty | impossible | set | seq | alt | capture | scope | anchor | keep | call | absentClear
  | cluster | abandon | halt => exact Or.inr rfl

/-- With more fuel, the ways to do a frame are found or stay. -/
theorem step_le (h : ∀ fs st, (sub fs st).Le (sub' fs st)) (f : Frame) (st : State) :
    (s.step sub f st).Le (s.step sub' f st) := by
  cases f with
  | node n => exact matchNode_le h n st
  | close | ret | round | limit | expect | shrink => exact Or.inr rfl

end Fuel

/-- One more unit of fuel settles a run that was not settled, and changes nothing else. The
induction is over all runs, since a step runs machines of its own with the same fuel. -/
private theorem run_le_succ (n : Nat) (frames : List Frame) (st : State) (cs : List Choice) :
    (s.run n frames st cs).Le (s.run (n + 1) frames st cs) := by
  induction n generalizing frames st cs with
  | zero => exact Or.inl rfl
  | succ n ih =>
      cases frames with
      | nil => exact Or.inr rfl
      | cons f frames =>
          rw [run_cons, run_cons]
          -- A step may run others inside it, such as a look-around, and these have more fuel as
          -- well.
          rcases step_le (s := s) (fun fs st' => ih fs st' []) f st with hstep | hstep
          · rw [hstep]
            exact Or.inl rfl
          · rw [hstep]
            split
            · exact Or.inr rfl
            · exact Or.inr rfl
            · rename_i ways _
              cases pending ways frames cs with
              | nil => exact Or.inr rfl
              | cons c rest => exact ih c.1 c.2 rest

/-- More fuel settles a run that was not settled, and changes nothing else. It is the lemma about
one more unit of fuel, as often as it is needed. -/
theorem run_le {n m : Nat} (h : n ≤ m) (frames : List Frame) (st : State) (cs : List Choice) :
    (s.run n frames st cs).Le (s.run m frames st cs) := by
  induction h with
  | refl => exact Or.inr rfl
  | step _ ih =>
      rcases ih with ih | ih
      · exact Or.inl ih
      · rw [ih]
        exact run_le_succ _ frames st cs

/-- A run that has an outcome has the same one with more fuel. -/
theorem run_mono {n m : Nat} {frames : List Frame} {st : State} {cs : List Choice} (h : n ≤ m)
    (hne : s.run n frames st cs ≠ .exhausted) :
    s.run m frames st cs = s.run n frames st cs := by
  rcases run_le (s := s) h frames st cs with hle | hle
  · exact absurd hle hne
  · exact hle.symm

/-- With enough fuel, and no choice left open, the run ends with an outcome. It does not depend on a
bound for the fuel, so it speaks of the pattern alone. -/
def Ends (s : Setting) (frames : List Frame) (st : State) (o : Outcome) : Prop :=
  o ≠ .exhausted ∧ ∃ n, s.run n frames st [] = o

/-- There is one outcome at most, whatever fuel it was found with. -/
theorem Ends.unique {frames : List Frame} {st : State} {o o' : Outcome}
    (h : s.Ends frames st o) (h' : s.Ends frames st o') : o = o' := by
  obtain ⟨hne, n, rfl⟩ := h
  obtain ⟨hne', m, rfl⟩ := h'
  rcases Nat.le_total n m with hle | hle
  · exact (run_mono hle hne).symm
  · exact run_mono hle hne'

/-! ### Choices -/

/-- Choices at the bottom of the stack are resumed once everything above them has failed, with the
fuel that is left. Until then they make no difference. -/
theorem run_append (n : Nat) (frames : List Frame) (st : State) (cs ds : List Choice) :
    (s.run n frames st cs = .failed ∧ ∃ k, k < n ∧ s.run n frames st (cs ++ ds) = s.resume k ds) ∨
    (s.run n frames st cs ≠ .failed ∧
      s.run n frames st (cs ++ ds) = s.run n frames st cs) := by
  induction n generalizing frames st cs with
  | zero => exact Or.inr ⟨Outcome.noConfusion, rfl⟩
  | succ n ih =>
      cases frames with
      | nil => exact Or.inr ⟨Outcome.noConfusion, rfl⟩
      | cons f frames =>
          rw [run_cons, run_cons]
          split
          · exact Or.inr ⟨Outcome.noConfusion, rfl⟩
          · exact Or.inr ⟨Outcome.noConfusion, rfl⟩
          · rename_i ways _
            -- The new choices come on top of all others.
            rw [pending_append]
            cases pending ways frames cs with
            | nil => exact Or.inl ⟨rfl, n, Nat.lt_succ_self n, rfl⟩
            | cons c rest =>
                rcases ih c.1 c.2 rest with ⟨hfail, k, hk, heq⟩ | ⟨hne, heq⟩
                · exact Or.inl ⟨hfail, k, Nat.lt_succ_of_lt hk, heq⟩
                · exact Or.inr ⟨hne, heq⟩

/-- An alternation ends as its first alternative does, unless that one fails. Then it ends as
the second one does, from the same state. -/
theorem ends_alt {a b : Node} {st : State} {o : Outcome} (h : s.Ends [.node (.alt a b)] st o) :
    (o ≠ .failed ∧ s.Ends [.node a] st o) ∨
    (s.Ends [.node a] st .failed ∧ s.Ends [.node b] st o) := by
  obtain ⟨hne, n, hrun⟩ := h
  cases n with
  | zero => exact absurd hrun.symm hne
  | succ n =>
      -- The second alternative is a choice at the bottom of the stack.
      have hstep : s.run n [.node a] st ([] ++ [([.node b], st)]) = o := hrun
      rcases run_append n [.node a] st [] [([.node b], st)] with ⟨hfail, k, _, heq⟩ | ⟨hfail, heq⟩
      · right
        rw [heq] at hstep
        exact ⟨⟨Outcome.noConfusion, n, hfail⟩, hne, k, hstep⟩
      · left
        rw [heq] at hstep
        rw [hstep] at hfail
        exact ⟨hfail, hne, n, hstep⟩

/-- Alternatives end as the first one that does not fail, or fail because all of them do. The
induction is on the alternatives, and each starts in the state in which the first one did. -/
theorem ends_ofAlts {ns : List Node} {st : State} {o : Outcome} (hne : ns ≠ [])
    (h : s.Ends [.node (.ofAlts ns)] st o) :
    (o ≠ .failed ∧ ∃ (i : Nat) (n : Node), ns[i]? = some n ∧ s.Ends [.node n] st o ∧
      ∀ (j : Nat) (m : Node), j < i → ns[j]? = some m → s.Ends [.node m] st .failed) ∨
    (o = .failed ∧ ∀ m ∈ ns, s.Ends [.node m] st .failed) := by
  induction ns with
  | nil => exact absurd rfl hne
  | cons a ns ih =>
      cases ns with
      | nil =>
          by_cases ho : o = .failed
          · subst ho
            exact Or.inr ⟨rfl, fun m hm => by rw [List.mem_singleton.mp hm]; exact h⟩
          · exact Or.inl ⟨ho, 0, a, rfl, h, fun j m hj => absurd hj (Nat.not_lt_zero j)⟩
      | cons b ns =>
          -- Either the first alternative decides, or it fails and the others do.
          rcases ends_alt h with ⟨ho, ha⟩ | ⟨ha, hrest⟩
          · exact Or.inl ⟨ho, 0, a, rfl, ha, fun j m hj => absurd hj (Nat.not_lt_zero j)⟩
          · rcases ih (List.cons_ne_nil b ns) hrest with ⟨ho, i, n, hi, hn, hbefore⟩ | ⟨ho, hall⟩
            · -- The alternatives before the one that decides are the first one and those before it
              -- in the rest.
              refine Or.inl ⟨ho, i + 1, n, hi, hn, fun j m hj hm => ?_⟩
              cases j with
              | zero =>
                  obtain rfl : a = m := Option.some.inj hm
                  exact ha
              | succ j => exact hbefore j m (Nat.lt_of_succ_lt_succ hj) hm
            · refine Or.inr ⟨ho, fun m hm => ?_⟩
              rcases List.mem_cons.mp hm with rfl | hm
              · exact ha
              · exact hall m hm

end Setting

end Highlight.Regex
