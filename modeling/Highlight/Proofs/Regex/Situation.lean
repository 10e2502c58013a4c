import Highlight.Proofs.Regex.Numbers
import Highlight.Proofs.Regex.Run
import Highlight.Regex.Search

/-!
# `Highlight.Proofs.Regex.Situation`: what every situation of a run has in common

A run of the machine goes through situations. `State.Sound` is what their states have in common,
and `Frame.Sound` what their frames do:

* the position is inside the text, not before the least one, and the limit is inside the text,
* the trace has grown from the trace at the start of the run,
* the trace and the nodes still to be matched enter no group outside a set that is closed under
  calls (`Setting.Closed`).

The least position and the first trace belong to one run. A look-around, an atomic group or a
condition runs a machine of its own with others, so `SubSound` asks the same of that run for all
of them.

`step_sound` says that no step leaves the invariant, and `run_sound` follows by induction on the
fuel.
-/

set_option autoImplicit false

namespace Highlight.Regex

open Highlight.Unicode

/-- Matching the node enters and calls only groups in `A`. After calls have been resolved, the
numbers of both are of one kind. -/
abbrev Node.Within (A : Nat → Prop) (n : Node) : Prop := n.Enters A A

/-- The event is about a group in `A`, if it is about one. -/
def Event.Within (A : Nat → Prop) : Event → Prop
  | .opened g _ | .closed g _ _ => A g
  | .called | .returned => True

/-- The bodies of the groups in `A` enter no others. So a call to a group in `A` does not lead out
of it. -/
def Setting.Closed (s : Setting) (A : Nat → Prop) : Prop :=
  ∀ g body, A g → (s.program.groups[g]?).join = some body → body.Within A

/-- No node leads out of the set of all groups. -/
theorem Node.within_true (n : Node) : n.Within fun _ => True := by
  induction n <;> simp_all [Node.Enters]

/-- The set of all groups is closed. It is used where only positions are of interest. -/
theorem Setting.closed_true (s : Setting) : s.Closed fun _ => True :=
  fun _ body _ _ => body.within_true

/-- The state of a situation: its positions are inside the text, and what it has recorded has grown
from the first trace and is about groups in `A`. -/
structure State.Sound (size : Nat) (A : Nat → Prop) (least : Nat) (first : List Event)
    (st : State) : Prop where
  least_le : least ≤ st.pos
  pos_le : st.pos ≤ size
  limit_le : st.limit ≤ size
  within : ∀ e ∈ st.trace, e.Within A
  grown : first <:+ st.trace

/-- A frame of a situation. What it still has to do keeps to the groups in `A` and to the positions
that the run may be at. -/
def Frame.Sound (size : Nat) (A : Nat → Prop) (least : Nat) : Frame → Prop
  | .node n => n.Within A
  | .close g _ => A g
  | .round body _ _ _ => body.Within A
  | .limit n => n ≤ size
  | .shrink n => least ≤ n
  | .ret | .expect _ => True

/-- A list of frames with a state to do them in. A run has one that it follows, and others to come
back to. -/
def Choice.Sound (size : Nat) (A : Nat → Prop) (least : Nat) (first : List Event)
    (c : Choice) : Prop :=
  (∀ f ∈ c.1, f.Sound size A least) ∧ c.2.Sound size A least first

/-- The ways to do what a frame asks for are all choices of this kind. If there are no ways, there
is nothing to ask. -/
def Ways.Sound (size : Nat) (A : Nat → Prop) (least : Nat) (first : List Event) :
    Ways → Prop
  | .go ways => ∀ w ∈ ways, Choice.Sound size A least first w
  | .abandoned | .exhausted => True

/-- What a machine of its own promises about its match. Its least position and its first trace are
those of its own run. -/
def SubSound (size : Nat) (A : Nat → Prop) (sub : List Frame → State → Outcome) : Prop :=
  ∀ least first fs st st', Choice.Sound size A least first (fs, st) → sub fs st = .matched st' →
    st'.Sound size A least first

variable {size least : Nat} {A : Nat → Prop} {first : List Event} {st st' : State}

namespace State.Sound

/-- Only the position has changed, to another one that the run may be at. -/
theorem moved {pos : Nat} (h : st.Sound size A least first) (hle : least ≤ pos)
    (hpos : pos ≤ size) : { st with pos := pos }.Sound size A least first :=
  ⟨hle, hpos, h.limit_le, h.within, h.grown⟩

/-- Only the limit has changed. It may be set back up to the end of the text. -/
theorem limited {n : Nat} (h : st.Sound size A least first) (hn : n ≤ size) :
    { st with limit := n }.Sound size A least first :=
  ⟨h.least_le, h.pos_le, hn, h.within, h.grown⟩

/-- An event has been recorded, about a group in `A`. -/
theorem recorded {e : Event} (h : st.Sound size A least first) (he : e.Within A) :
    (st.record e).Sound size A least first := by
  refine ⟨h.least_le, h.pos_le, h.limit_le, ?_, h.grown.trans (List.suffix_cons e st.trace)⟩
  intro e' he'
  rcases List.mem_cons.mp he' with rfl | he'
  · exact he
  · exact h.within e' he'

/-- A run of its own begins at any position inside the text. A look-behind begins before the
position where the run around it began. -/
theorem restarted {pos n : Nat} (h : st.Sound size A least first) (hpos : pos ≤ size)
    (hn : n ≤ size) : { st with pos := pos, limit := n }.Sound size A 0 first :=
  ⟨Nat.zero_le _, hpos, hn, h.within, h.grown⟩

/-- A test has matched somewhere, and only what it has recorded is kept. -/
theorem tested (h : st.Sound size A least first) (h' : st'.Sound size A 0 first) :
    { st' with pos := st.pos, limit := st.limit }.Sound size A least first :=
  ⟨h.least_le, h.pos_le, h.limit_le, h'.within, h'.grown⟩

end State.Sound

/-! ### The ends of what is matched without frames -/

namespace Setting

variable {s : Setting}

/-- A string ends between its start and the limit. If it is empty it ends where it starts, even
beyond the limit, which is why the maximum is taken. -/
theorem literalEnd_bounds {limit : Nat} {cs : List Char} {i j : Nat}
    (h : s.literalEnd limit cs i = some j) : i ≤ j ∧ j ≤ max i limit := by
  induction cs generalizing i with
  | nil => cases h; exact ⟨Nat.le_refl _, Nat.le_max_left _ _⟩
  | cons c cs ih =>
      unfold literalEnd at h
      split at h
      · have hj := ih h
        omega
      · cases h

/-- So does a string that ignores case. A character may stand for several of its letters, so the
induction is on the fuel. -/
theorem foldedEnd_bounds {limit fuel : Nat} {target : List Nat} {i j : Nat}
    (h : s.foldedEnd limit fuel target i = some j) : i ≤ j ∧ j ≤ max i limit := by
  induction fuel generalizing target i with
  | zero =>
      cases target with
      | nil => cases h; exact ⟨Nat.le_refl _, Nat.le_max_left _ _⟩
      | cons => cases h
  | succ fuel ih =>
      cases target with
      | nil => cases h; exact ⟨Nat.le_refl _, Nat.le_max_left _ _⟩
      | cons t target =>
          unfold foldedEnd at h
          split at h
          · split at h
            · cases h
            · -- The character is there, and the rest of its folding goes on behind it.
              simp only at h
              split at h
              · have hj := ih h
                omega
              · cases h
          · cases h

/-- So does a text that is repeated from elsewhere. The text that is repeated may lie anywhere, and
only the place of the repetition is bounded. -/
theorem repeatedEnd_bounds {folding : Bool} {limit n i j k : Nat}
    (h : s.repeatedEnd folding limit n i j = some k) : j ≤ k ∧ k ≤ max j limit := by
  induction n generalizing i j with
  | zero => cases h; exact ⟨Nat.le_refl _, Nat.le_max_left _ _⟩
  | succ n ih =>
      unfold repeatedEnd at h
      split at h
      · split at h
        · split at h
          · have hk := ih h
            omega
          · cases h
        · cases h
      · cases h

/-- A reference ends where the text of one of its groups does. Groups without a text are passed
over, and so are those whose text does not follow. -/
theorem backrefEnd_bounds {folding : Bool} {groups : List Nat} {j : Nat}
    (h : s.backrefEnd st folding groups = some j) : st.pos ≤ j ∧ j ≤ max st.pos st.limit := by
  induction groups with
  | nil => cases h
  | cons g gs ih =>
      unfold backrefEnd at h
      split at h
      · exact ih h
      · split at h
        · rename_i hrep
          cases h
          exact repeatedEnd_bounds hrep
        · exact ih h

/-- So does a reference to a group at another level of calls. -/
theorem levelEnd_bounds {folding : Bool} {groups : List Nat} {level : Int} {j : Nat}
    (h : s.levelEnd st folding groups level = some j) :
    st.pos ≤ j ∧ j ≤ max st.pos st.limit := by
  unfold levelEnd at h
  split at h
  · exact repeatedEnd_bounds h
  · cases h

/-- A set of characters takes one of them, before the limit. So the position moves on by one. -/
theorem setEnd_bounds {cs : CharSet} {j : Nat} (h : s.setEnd cs st = some j) :
    st.pos ≤ j ∧ j ≤ max st.pos st.limit := by
  unfold setEnd at h
  split at h
  · split at h
    · split at h
      · cases h; omega
      · cases h
    · cases h
  · cases h

/-- A cluster of characters ends after at least none and at most as many as there is fuel for. It
does not look at the limit, so the fuel is taken to be what is left of the text. -/
theorem clusterEnd_bounds (text : Array Char) (fuel i : Nat) :
    i ≤ clusterEnd text fuel i ∧ clusterEnd text fuel i ≤ i + fuel := by
  induction fuel generalizing i with
  | zero => exact ⟨Nat.le_refl _, Nat.le_refl _⟩
  | succ fuel ih =>
      unfold clusterEnd
      split
      · omega
      · have h := ih (i + 1)
        omega

/-- The first position where a node matches is among those that were tried. The last of them is the
one behind all characters. -/
theorem firstMatch_bounds {sub : List Frame → State → Outcome} {body : Node} {n i j : Nat}
    (h : firstMatch sub body st n i = some j) : i ≤ j ∧ j ≤ i + n := by
  induction n generalizing i with
  | zero => cases h; exact ⟨Nat.le_refl _, Nat.le_refl _⟩
  | succ n ih =>
      unfold firstMatch at h
      split at h
      · cases h; omega
      · cases h
      · have hj := ih h
        omega

/-! ### Steps -/

/-- A node that keeps to `A` is a frame that does. -/
theorem node_sound {n : Node} (h : n.Within A) : (Frame.node n).Sound size A least := h

/-- A further round of a repetition keeps to `A` if its body does. -/
theorem round_sound {body : Node} (h : body.Within A) (greedy : Bool) (start : Nat)
    (trace : List Event) : (Frame.round body greedy start trace).Sound size A least := h

/-- Nothing to do leads nowhere. -/
theorem frames_nil : ∀ f ∈ ([] : List Frame), f.Sound size A least :=
  fun _ hf => absurd hf List.not_mem_nil

/-- One more thing to do is looked at by itself. -/
theorem frames_cons {f : Frame} {fs : List Frame} (hf : f.Sound size A least)
    (hfs : ∀ f' ∈ fs, f'.Sound size A least) : ∀ f' ∈ f :: fs, f'.Sound size A least :=
  List.forall_mem_cons.mpr ⟨hf, hfs⟩

/-- One thing to do. -/
theorem frames_one {f : Frame} (hf : f.Sound size A least) :
    ∀ f' ∈ [f], f'.Sound size A least :=
  frames_cons hf frames_nil

/-- Two things to do. -/
theorem frames_two {f f' : Frame} (hf : f.Sound size A least) (hf' : f'.Sound size A least) :
    ∀ f'' ∈ [f, f'], f''.Sound size A least :=
  frames_cons hf (frames_one hf')

/-- Nothing is left to do in the same situation. -/
theorem done_sound (h : st.Sound size A least first) :
    (Ways.done st).Sound size A least first := by
  intro w hw
  obtain rfl := List.mem_singleton.mp hw
  exact ⟨frames_nil, h⟩

/-- There is one way, with frames that are looked at. -/
theorem next_sound {frames : List Frame} (hf : ∀ f ∈ frames, f.Sound size A least)
    (h : st.Sound size A least first) : (Ways.next frames st).Sound size A least first := by
  intro w hw
  obtain rfl := List.mem_singleton.mp hw
  exact ⟨hf, h⟩

/-- There is no way, and the run comes back to an open choice. -/
theorem back_sound : Ways.back.Sound size A least first :=
  fun _ hw => absurd hw List.not_mem_nil

/-- There are two ways, the second of which stays open. Both of them have to keep the invariant,
with frames of their own. -/
theorem go_sound_pair {frames frames' : List Frame} (hf : ∀ f ∈ frames, f.Sound size A least)
    (hf' : ∀ f ∈ frames', f.Sound size A least) (h : st.Sound size A least first)
    (h' : st'.Sound size A least first) :
    (Ways.go [(frames, st), (frames', st')]).Sound size A least first := by
  intro w hw
  rcases List.mem_cons.mp hw with rfl | hw
  · exact ⟨hf, h⟩
  · obtain rfl := List.mem_singleton.mp hw
    exact ⟨hf', h'⟩

/-- The position has moved to where a text ends, if it does. What is known of that end is known of
the position. -/
theorem moveTo_sound {pos : Option Nat} (h : st.Sound size A least first)
    (hpos : ∀ i, pos = some i → st.pos ≤ i ∧ i ≤ max st.pos st.limit) :
    (moveTo st pos).Sound size A least first := by
  unfold moveTo
  split
  · rename_i i
    have hi := hpos i rfl
    have hle := h.least_le
    have hpos := h.pos_le
    have hlimit := h.limit_le
    exact done_sound (h.moved (by omega) (by omega))
  · exact back_sound

/-- A check changes nothing, or fails. -/
theorem check_sound (h : st.Sound size A least first) (holds : Bool) :
    (check st holds).Sound size A least first := by
  unfold check
  split
  · exact done_sound h
  · exact back_sound

/-- A repetition goes on or stops, and which of the two comes first is a matter of greed. -/
theorem more_sound {frames : List Frame} (hf : ∀ f ∈ frames, f.Sound size A least)
    (h : st.Sound size A least first) (greedy : Bool) :
    (more greedy frames st).Sound size A least first := by
  cases greedy with
  | true => exact go_sound_pair hf frames_nil h h
  | false => exact go_sound_pair frames_nil hf h h

/-- A repetition without an upper bound goes on with one more round, or stops. -/
theorem loop_sound {body : Node} (hb : body.Within A) (h : st.Sound size A least first)
    (greedy : Bool) : (loop body greedy st).Sound size A least first :=
  more_sound (frames_two (node_sound hb) (round_sound hb greedy _ _)) h greedy

/-- A counter that is passed is counted in the state, and in nothing else. -/
theorem pass_sound (h : st.Sound size A least first) (counter most : Nat) :
    (pass counter most st).Sound size A least first := by
  unfold pass
  split
  · exact back_sound
  · exact done_sound ⟨h.least_le, h.pos_le, h.limit_le, h.within, h.grown⟩

/-- Entering a group records its start, and leaves its end to be done. -/
theorem enter_sound {g : Nat} {body : Node} {more : List Frame} (hg : A g) (hb : body.Within A)
    (hmore : ∀ f ∈ more, f.Sound size A least) (h : st.Sound size A least first) :
    (enter g body more st).Sound size A least first :=
  next_sound (frames_cons (node_sound hb) (frames_cons hg hmore)) (h.recorded hg)

/-- A group that is called elsewhere is entered in the same way, and the call is recorded besides.
The return is a frame, which needs nothing to be sound. -/
theorem enterCalled_sound {g : Nat} {body : Node} (hg : A g) (hb : body.Within A)
    (h : st.Sound size A least first) : (enterCalled g body st).Sound size A least first := by
  unfold enterCalled
  split
  · exact back_sound
  · have hcalled : (st.record .called).Sound size A least first := h.recorded True.intro
    have hret : Frame.ret.Sound size A least := True.intro
    exact enter_sound hg hb (frames_one hret)
      ⟨hcalled.least_le, hcalled.pos_le, hcalled.limit_le, hcalled.within, hcalled.grown⟩

/-- What is done after a run of its own, whatever its outcome is. A run that has been given up, or
that has run out of fuel, leaves no way to be sound. -/
theorem afterRun_sound {o : Outcome} {matched : State → Ways} {failed : Ways}
    (hm : ∀ st', o = .matched st' → (matched st').Sound size A least first)
    (hf : failed.Sound size A least first) :
    (afterRun o matched failed).Sound size A least first := by
  cases o with
  | matched st' => exact hm st' rfl
  | failed => exact hf
  | abandoned | exhausted => exact True.intro

/-- After a look-around the position is as it was before. A negative one has recorded nothing. -/
theorem afterTest_sound {o : Outcome} (h : st.Sound size A least first)
    (ho : ∀ st', o = .matched st' → st'.Sound size A 0 first) (positive : Bool) :
    (afterTest positive o st).Sound size A least first := by
  cases positive with
  | true => exact afterRun_sound (fun st' hm => done_sound (h.tested (ho st' hm))) back_sound
  | false => exact afterRun_sound (fun _ _ => back_sound) (done_sound h)

section Sub

variable {sub : List Frame → State → Outcome}

/-- A run of its own that begins with one node. -/
theorem sub_node (hsub : SubSound size A sub) {n : Node} (hn : n.Within A)
    (h : st.Sound size A least first) (hm : sub [.node n] st = .matched st') :
    st'.Sound size A least first :=
  hsub least first _ _ _ ⟨frames_one (node_sound hn), h⟩ hm

/-- A look-behind tries one position after another, all of them inside the text. It may go back to
before the start of the attempt, so that the least position is 0 there. -/
theorem lookBack_sound (hsub : SubSound size A sub) {body : Node} (hb : body.Within A)
    (h : st.Sound size A least first) (n back : Nat)
    (hm : lookBack sub body st n back = .matched st') : st'.Sound size A 0 first := by
  induction n generalizing back with
  | zero => cases hm
  | succ n ih =>
      unfold lookBack at hm
      split at hm
      · cases hm
      · split at hm
        · exact ih (back + 1) hm
        · have hpos := h.pos_le
          have hexpect : (Frame.expect st.pos).Sound size A 0 := True.intro
          exact hsub 0 first _ _ _
            ⟨frames_two (node_sound hb) hexpect, h.restarted (by omega) hpos⟩ hm

/-- A look-behind of one length has one position to try. If it would lie before the text, the
look-behind fails instead. -/
theorem lookBehind_sound (hsub : SubSound size A sub) {reach : Reach} {body : Node}
    (hb : body.Within A) (h : st.Sound size A least first)
    (hm : lookBehind sub reach body st = .matched st') : st'.Sound size A 0 first := by
  unfold lookBehind at hm
  split at hm
  · split at hm
    · cases hm
    · have hpos := h.pos_le
      have hstart : { st with pos := st.pos - reach.least }.Sound size A 0 first :=
        ⟨Nat.zero_le _, by show st.pos - reach.least ≤ size; omega, h.limit_le, h.within, h.grown⟩
      exact sub_node hsub hb hstart hm
  · exact lookBack_sound hsub hb h _ _ hm

/-- The end of a text in which a node does not occur lies between the position and the limit. So
whatever is done there is done inside the text. -/
theorem upTo_sound {body : Node} {ways : Nat → Ways} (h : st.Sound size A least first)
    (hways : ∀ stop, st.pos ≤ stop → stop ≤ size → (ways stop).Sound size A least first) :
    (upTo sub body st ways).Sound size A least first := by
  unfold upTo
  split
  · rename_i stop hstop
    have hb := firstMatch_bounds hstop
    have hpos := h.pos_le
    have hlimit := h.limit_le
    exact hways stop hb.1 (by omega)
  · exact True.intro

variable (hsub : SubSound size A sub)
include hsub

/-- No node leaves the invariant. There is a case for each kind of node, and what the state is after
it decides which of the lemmas above applies. -/
theorem matchNode_sound {s : Setting} (hs : s.Closed A) (hsize : s.text.size = size) {n : Node}
    (hn : n.Within A) (h : st.Sound size A least first) :
    (s.matchNode sub n st).Sound size A least first := by
  have hpos := h.pos_le
  have hlimit := h.limit_le
  have hleast := h.least_le
  cases n with
  | empty => exact done_sound h
  | impossible => exact back_sound
  | literal cs fold =>
      cases fold with
      | false => exact moveTo_sound h fun i hi => literalEnd_bounds hi
      | true => exact moveTo_sound h fun i hi => foldedEnd_bounds hi
  | set cs => exact moveTo_sound h fun i hi => setEnd_bounds hi
  | seq a b => exact next_sound (frames_two (node_sound hn.1) (node_sound hn.2)) h
  | alt a b =>
      exact go_sound_pair (frames_one (node_sound hn.1)) (frames_one (node_sound hn.2)) h h
  | many body least' most greedy =>
      have hb : body.Within A := hn
      -- What is left of the repetition is one of the same body.
      have hmany : ∀ l m, (Node.many body l m greedy).Within A := fun _ _ => hn
      rcases least' with _ | least'
      · rcases most with _ | most | most
        · exact loop_sound hb h greedy
        · exact done_sound h
        · exact more_sound (frames_two (node_sound hb) (node_sound (hmany _ _))) h greedy
      · exact next_sound (frames_two (node_sound hb) (node_sound (hmany _ _))) h
  | capture g body =>
      show (if s.program.called.contains g then enterCalled g body st
        else enter g body [] st).Sound size A least first
      split
      · exact enterCalled_sound hn.1 hn.2 h
      · exact enter_sound hn.1 hn.2 frames_nil h
  | scope body =>
      have hb : body.Within A := hn
      exact next_sound (frames_one (node_sound hb)) h
  | atomic body =>
      have hb : body.Within A := hn
      exact afterRun_sound (fun st' hm => done_sound (sub_node hsub hb h hm)) back_sound
  | ahead positive body =>
      have hb : body.Within A := hn
      have hstart : st.Sound size A 0 first :=
        ⟨Nat.zero_le _, hpos, hlimit, h.within, h.grown⟩
      exact afterTest_sound h (fun st' hm => sub_node hsub hb hstart hm) positive
  | behind positive reach body =>
      -- The body may begin before the least position of this run.
      have hb : body.Within A := hn
      exact afterTest_sound h (fun st' hm => lookBehind_sound hsub hb h hm) positive
  | anchor a => exact check_sound h _
  | keep => exact done_sound ⟨hleast, hpos, hlimit, h.within, h.grown⟩
  | backref groups fold level =>
      cases level with
      | none => exact moveTo_sound h fun i hi => backrefEnd_bounds hi
      | some level => exact moveTo_sound h fun i hi => levelEnd_bounds hi
  | isSet groups level => cases level <;> exact check_sound h _
  | call g =>
      -- This is where the set of groups has to be closed under calls.
      simp only [matchNode]
      split
      · rename_i body hbody
        exact enterCalled_sound hn (hs g body hn hbody) h
      · exact back_sound
  | cond test yes no =>
      obtain ⟨ht, hy, hno⟩ := hn
      exact afterRun_sound
        (fun st' hm => next_sound (frames_one (node_sound hy)) (sub_node hsub ht h hm))
        (next_sound (frames_one (node_sound hno)) h)
  | absent body =>
      exact upTo_sound h fun stop hle hstop =>
        next_sound (frames_one hleast) (h.moved (by omega) hstop)
  | absentIn body inner =>
      exact upTo_sound h fun stop hle hstop =>
        next_sound (frames_two (node_sound hn.2) hlimit) (h.limited hstop)
  | absentCut body => exact upTo_sound h fun stop hle hstop => done_sound (h.limited hstop)
  | absentClear => exact done_sound (h.limited (Nat.le_of_eq hsize))
  | cluster =>
      show (if st.pos < st.limit then
          Ways.done { st with pos := clusterEnd s.text (st.limit - st.pos) st.pos }
        else .back).Sound size A least first
      split
      · have hend := clusterEnd_bounds s.text (st.limit - st.pos) st.pos
        exact done_sound (h.moved (by omega) (by omega))
      · exact back_sound
  | checkpoint counter most =>
      cases most with
      | none => exact done_sound h
      | some most => exact pass_sound h counter most
  | abandon | halt => exact True.intro

/-- No step leaves the invariant. There is a case for each kind of frame, and the one for nodes is
the only one that runs anything inside it. -/
theorem step_sound {s : Setting} (hs : s.Closed A) (hsize : s.text.size = size) {f : Frame}
    (hf : f.Sound size A least) (h : st.Sound size A least first) :
    (s.step sub f st).Sound size A least first := by
  cases f with
  | node n => exact matchNode_sound hsub hs hsize hf h
  | close g start => exact done_sound (h.recorded hf)
  | ret =>
      have hret : (st.record .returned).Sound size A least first := h.recorded True.intro
      exact done_sound ⟨hret.least_le, hret.pos_le, hret.limit_le, hret.within, hret.grown⟩
  -- A round that has changed nothing ends the loop, any other begins the next one.
  | round body greedy start trace =>
      show (if st.pos = start ∧ !s.spansDiffer trace st.trace then Ways.done st
        else loop body greedy st).Sound size A least first
      split
      · exact done_sound h
      · exact loop_sound hf h greedy
  | limit n => exact done_sound (h.limited hf)
  | expect pos => exact check_sound h _
  | shrink n =>
      show (if n < st.pos then .go [([], st), ([.shrink n], { st with pos := st.pos - 1 })]
        else Ways.done st).Sound size A least first
      split
      · rename_i hlt
        -- The second way is one character shorter, and not shorter than the least one.
        have hpos := h.pos_le
        have hn : least ≤ n := hf
        exact go_sound_pair frames_nil (frames_one hf) h (h.moved (by omega) (by omega))
      · exact done_sound h

end Sub

/-! ### Runs -/

/-- The choices open after a step are those of the step and those that were open before. The former
go on with the frames that were left. -/
theorem pending_sound {ways : List Choice} {frames : List Frame} {cs : List Choice}
    (hways : ∀ w ∈ ways, Choice.Sound size A least first w)
    (hframes : ∀ f ∈ frames, f.Sound size A least)
    (hcs : ∀ c ∈ cs, Choice.Sound size A least first c) :
    ∀ c ∈ pending ways frames cs, Choice.Sound size A least first c := by
  intro c hc
  rcases List.mem_append.mp hc with hc | hc
  · obtain ⟨w, hw, rfl⟩ := List.mem_map.mp hc
    refine ⟨fun f hf => ?_, (hways w hw).2⟩
    rcases List.mem_append.mp hf with hf | hf
    · exact (hways w hw).1 f hf
    · exact hframes f hf
  · exact hcs c hc

/-- A run keeps the invariant up to its match. The induction on the fuel is over all runs, since the
runs inside a step have a least position and a first trace of their own. -/
theorem run_sound {s : Setting} (hs : s.Closed A) (n : Nat) (least : Nat)
    (first : List Event) (frames : List Frame) (st : State) (cs : List Choice) (st' : State)
    (h : Choice.Sound s.text.size A least first (frames, st))
    (hcs : ∀ c ∈ cs, Choice.Sound s.text.size A least first c)
    (hrun : s.run n frames st cs = .matched st') : st'.Sound s.text.size A least first := by
  induction n generalizing least first frames st cs st' with
  | zero => cases hrun
  | succ n ih =>
      cases frames with
      | nil =>
          cases hrun
          exact h.2
      | cons f frames =>
          obtain ⟨hframes, hst⟩ := h
          -- The runs inside the step have less fuel, so the induction covers them.
          have hsub : SubSound s.text.size A fun fs st' => s.run n fs st' [] :=
            fun least first fs st st' h hm =>
              ih least first fs st [] st' h (fun c hc => absurd hc List.not_mem_nil) hm
          have hstep := step_sound hsub hs rfl (hframes f List.mem_cons_self) hst
          rw [run_cons] at hrun
          split at hrun
          · cases hrun
          · cases hrun
          · rename_i ways hways
            rw [hways] at hstep
            have hpending := pending_sound hstep
              (fun f' hf' => hframes f' (List.mem_cons_of_mem f hf')) hcs
            revert hrun hpending
            cases pending ways frames cs with
            | nil => exact fun hrun _ => nomatch hrun
            | cons c rest =>
                intro hrun hpending
                exact ih least first c.1 c.2 rest st' (hpending c List.mem_cons_self)
                  (fun c' hc' => hpending c' (List.mem_cons_of_mem c hc')) hrun

end Setting

end Highlight.Regex
