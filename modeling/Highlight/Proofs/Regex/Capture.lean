import Highlight.Proofs.Regex.Situation

/-!
# `Highlight.Proofs.Regex.Capture`: groups that have taken part in a match

A match is made of what its run has recorded. Two facts tell which groups have a part in it:

* `span?_of_ends_capture`: a group that has been matched has a part in the match, however often
  the run has taken back a choice on the way. `Leaves` is the invariant: the group has been left,
  or its end is still to be done.
* `span?_eq_none`: a group that is neither entered nor called has none.
-/

set_option autoImplicit false

namespace Highlight.Regex

/-! ### Reading the trace -/

/-- A group that has been left has a start. It may be that of a later time, when the group was
entered again. -/
theorem State.startIn_isSome {g a b : Nat} {trace : List Event} (h : .closed g a b ∈ trace) :
    (startIn g trace).isSome := by
  induction trace with
  | nil => exact absurd h List.not_mem_nil
  | cons e trace ih =>
      rcases List.mem_cons.mp h with rfl | hmem
      · simp [startIn]
      · -- The latest event that is about the group decides.
        cases e with
        | opened g' s =>
            show (if g' = g then some s else startIn g trace).isSome
            split
            · rfl
            · exact ih hmem
        | closed g' s e =>
            show (if g' = g then some s else startIn g trace).isSome
            split
            · rfl
            · exact ih hmem
        | called | returned => exact ih hmem

/-- A group that has been left has an end, which is that of the last time. The events of other
groups that came later are passed over. -/
theorem State.stopIn_isSome {g a b : Nat} {trace : List Event} (h : .closed g a b ∈ trace) :
    (stopIn g trace).isSome := by
  induction trace with
  | nil => exact absurd h List.not_mem_nil
  | cons e trace ih =>
      rcases List.mem_cons.mp h with rfl | hmem
      · simp [stopIn]
      · cases e with
        | closed g' s e =>
            show (if g' = g then some e else stopIn g trace).isSome
            split
            · rfl
            · exact ih hmem
        | opened | called | returned => exact ih hmem

/-- A group that has been left has a span. -/
theorem State.span?_isSome {g a b : Nat} {st : State} (h : .closed g a b ∈ st.trace) :
    (st.span? g).isSome := by
  obtain ⟨start, hstart⟩ := Option.isSome_iff_exists.mp (startIn_isSome h)
  obtain ⟨stop, hstop⟩ := Option.isSome_iff_exists.mp (stopIn_isSome h)
  rw [span?, hstart, hstop]
  rfl

/-- A group has no end if all events are about other groups. A run records events of those groups
only that its nodes enter. -/
theorem State.stopIn_eq_none {A : Nat → Prop} {g : Nat} {trace : List Event} (hg : ¬ A g)
    (h : ∀ e ∈ trace, e.Within A) : stopIn g trace = none := by
  induction trace with
  | nil => rfl
  | cons e trace ih =>
      have hrest := ih fun e' he' => h e' (List.mem_cons_of_mem e he')
      cases e with
      | closed g' s e =>
          have hg' : A g' := h _ List.mem_cons_self
          have hne : g' ≠ g := fun heq => hg (heq ▸ hg')
          exact (if_neg hne).trans hrest
      | opened | called | returned => exact hrest

/-- A group without events has no span, so it has no part in the match. -/
theorem State.span?_eq_none {A : Nat → Prop} {g : Nat} {st : State} (hg : ¬ A g)
    (h : ∀ e ∈ st.trace, e.Within A) : st.span? g = none := by
  rw [span?, stopIn_eq_none hg h]
  split
  · rename_i hstop
    cases hstop
  · rfl

/-! ### Runs that leave a group -/

namespace Setting

variable {s : Setting} {k : Nat}

/-- The group `k` has been left, or is still to be left. Both are kept by steps, and by the choices
that a run comes back to. -/
def Leaves (k : Nat) (c : Choice) : Prop :=
  (∃ p, .close k p ∈ c.1) ∨ ∃ a b, .closed k a b ∈ c.2.trace

/-- A situation of which nothing more is known than that it is one. -/
abbrev Valid (s : Setting) (c : Choice) : Prop :=
  Choice.Sound s.text.size (fun _ => True) 0 [] c

/-- What a step records comes on top of the trace. Nothing that has been recorded is taken back
within a way, only with the choice of another one. -/
theorem grown_of_step {n : Nat} {f : Frame} {frames : List Frame} {st : State}
    {ways : List Choice} (hvalid : s.Valid (f :: frames, st))
    (hstep : s.step (fun fs st' => s.run n fs st' []) f st = .go ways) :
    ∀ w ∈ ways, s.Valid w ∧ st.trace <:+ w.2.trace := by
  obtain ⟨hframes, hst⟩ := hvalid
  have hsub : SubSound s.text.size (fun _ => True) fun fs st' => s.run n fs st' [] :=
    fun least first fs st st' h hm =>
      run_sound s.closed_true n least first fs st [] st' h
        (fun c hc => absurd hc List.not_mem_nil) hm
  have hf := hframes f List.mem_cons_self
  -- The invariant of situations holds relative to the trace at this point as well.
  have hnow : st.Sound s.text.size (fun _ => True) 0 st.trace :=
    ⟨hst.least_le, hst.pos_le, hst.limit_le, hst.within, List.suffix_rfl⟩
  have hways := step_sound hsub s.closed_true rfl hf hst
  have hgrown := step_sound hsub s.closed_true rfl hf hnow
  rw [hstep] at hways hgrown
  exact fun w hw => ⟨hways w hw, (hgrown w hw).2.grown⟩

/-- A step does not forget to leave a group: either it leaves it, or the frame that does so is still
there. -/
theorem leaves_of_step {n : Nat} {f : Frame} {frames : List Frame} {st : State}
    {ways : List Choice} (hvalid : s.Valid (f :: frames, st)) (h : Leaves k (f :: frames, st))
    (hstep : s.step (fun fs st' => s.run n fs st' []) f st = .go ways) :
    ∀ w ∈ ways, Leaves k (w.1 ++ frames, w.2) := by
  intro w hw
  rcases h with ⟨p, hp⟩ | ⟨a, b, hclosed⟩
  · rcases List.mem_cons.mp hp with rfl | hp
    · -- The group is left in this step.
      cases hstep
      obtain rfl := List.mem_singleton.mp hw
      exact Or.inr ⟨p, st.pos, List.mem_cons_self⟩
    · exact Or.inl ⟨p, List.mem_append_right w.1 hp⟩
  · exact Or.inr ⟨a, b, (grown_of_step hvalid hstep w hw).2.subset hclosed⟩

/-- A run leaves the groups that it has to leave. The induction is on the fuel, and the invariant is
asked of the open choices too, since the run may come back to them. -/
theorem leaves_of_run (n : Nat) (frames : List Frame) (st st' : State) (cs : List Choice)
    (hvalid : s.Valid (frames, st)) (h : Leaves k (frames, st))
    (hcs : ∀ c ∈ cs, s.Valid c ∧ Leaves k c)
    (hrun : s.run n frames st cs = .matched st') : ∃ a b, .closed k a b ∈ st'.trace := by
  induction n generalizing frames st cs with
  | zero => cases hrun
  | succ n ih =>
      cases frames with
      | nil =>
          cases hrun
          rcases h with ⟨p, hp⟩ | hclosed
          · exact absurd hp List.not_mem_nil
          · exact hclosed
      | cons f frames =>
          rw [run_cons] at hrun
          split at hrun
          · cases hrun
          · cases hrun
          · rename_i ways hstep
            -- Taking back a choice goes on from a situation that still has to leave the group.
            have hpending : ∀ c ∈ pending ways frames cs, s.Valid c ∧ Leaves k c := by
              intro c hc
              rcases List.mem_append.mp hc with hc | hc
              · obtain ⟨w, hw, rfl⟩ := List.mem_map.mp hc
                have hw' := (grown_of_step hvalid hstep w hw).1
                refine ⟨⟨fun f' hf' => ?_, hw'.2⟩, leaves_of_step hvalid h hstep w hw⟩
                rcases List.mem_append.mp hf' with hf' | hf'
                · exact hw'.1 f' hf'
                · exact hvalid.1 f' (List.mem_cons_of_mem f hf')
              · exact hcs c hc
            revert hrun hpending
            cases pending ways frames cs with
            | nil => exact fun hrun _ => nomatch hrun
            | cons c rest =>
                intro hrun hpending
                have hc := hpending c List.mem_cons_self
                exact ih c.1 c.2 rest hc.1 hc.2
                  (fun c' hc' => hpending c' (List.mem_cons_of_mem c hc')) hrun

/-- The ways to match a group all have to leave it, whether or not the group is called elsewhere. A
call that is nested too deeply leaves no way at all. -/
theorem leaves_of_capture (sub : List Frame → State → Outcome) {body : Node} {st : State}
    {ways : List Choice} (h : s.matchNode sub (.capture k body) st = .go ways) :
    ∀ w ∈ ways, Leaves k w := by
  have henter : ∀ more st ways, enter k body more st = .go ways → ∀ w ∈ ways, Leaves k w := by
    intro more st ways h w hw
    cases h
    obtain rfl := List.mem_singleton.mp hw
    exact Or.inl ⟨st.pos, by simp⟩
  -- A group that is called elsewhere is entered by way of a return address, all others directly.
  have hcapture : (if s.program.called.contains k then enterCalled k body st
      else enter k body [] st) = .go ways := h
  clear h
  split at hcapture
  · unfold enterCalled at hcapture
    split at hcapture
    · cases hcapture
      -- The calls are nested too deeply, and there is no way on.
      exact fun w hw => absurd hw List.not_mem_nil
    · exact henter _ _ _ hcapture
  · exact henter _ _ _ hcapture

/-- A group that has been matched has a span. It begins as the only thing to do, and when nothing is
left to do the group has been left. -/
theorem span?_of_ends_capture {body : Node} {st st' : State}
    (hvalid : s.Valid ([.node (.capture k body)], st))
    (h : s.Ends [.node (.capture k body)] st (.matched st')) : (st'.span? k).isSome := by
  obtain ⟨_, n, hrun⟩ := h
  cases n with
  | zero => cases hrun
  | succ n =>
      rw [run_cons] at hrun
      split at hrun
      · cases hrun
      · cases hrun
      · rename_i ways hstep
        have hvalid' := fun w hw => (grown_of_step hvalid hstep w hw).1
        have hleaves := leaves_of_capture (fun fs st' => s.run n fs st' []) hstep
        have hpending : pending ways [] [] = ways := by simp [pending]
        rw [hpending] at hrun
        cases ways with
        | nil => cases hrun
        | cons c rest =>
            -- All ways in will leave the group before they match, so the final trace has it closed.
            have hclosed := leaves_of_run n c.1 c.2 st' rest (hvalid' c List.mem_cons_self)
              (hleaves c List.mem_cons_self) (fun c' hc' =>
                ⟨hvalid' c' (List.mem_cons_of_mem c hc'), hleaves c' (List.mem_cons_of_mem c hc')⟩)
              hrun
            obtain ⟨a, b, hclosed⟩ := hclosed
            exact State.span?_isSome hclosed

/-- A group outside a set that a match does not leave has no span. -/
theorem span?_of_ends {A : Nat → Prop} {n : Node} {st st' : State} {g : Nat}
    (hclosed : s.Closed A) (hn : n.Within A) (hst : st.Sound s.text.size A 0 [])
    (h : s.Ends [.node n] st (.matched st')) (hg : ¬ A g) : st'.span? g = none := by
  obtain ⟨_, m, hrun⟩ := h
  have hsound := run_sound hclosed m 0 [] [.node n] st [] st' ⟨frames_one (node_sound hn), hst⟩
    (fun c hc => absurd hc List.not_mem_nil) hrun
  exact State.span?_eq_none hg hsound.within

end Setting

end Highlight.Regex
