import Highlight.Proofs.Except
import Highlight.Proofs.Regex.Numbers
import Highlight.Regex.Parser

/-!
# `Highlight.Proofs.Regex.Quiet`: readers that open no group

Most functions of the reader open no group. `Reader.Quiet g m p` says this of the reader `m`: it
leaves the groups `g` as they are, and its result has the property `p`. Where nothing is to be
said about the result, the reader is `Reader.Silent`. Both compose by `quiet_bind`, and there is
one lemma for each function.

The property is needed where the result is a node. It is always that the node has no groups, or,
with a quantifier on it, the groups that it had before (`quiet_quantifiers`).
-/

set_option autoImplicit false

namespace Highlight.Regex

namespace Reader

variable {α β : Type}

/-- A bind ends well if both its parts do, the second one in the state that the first one leaves.
The proofs about sequences take this for their definition. -/
theorem bind_eq_ok {m : Reader α} {k : α → Reader β} {st st' : ReaderState} {b : β} :
    (m >>= k) st = .ok (b, st') ↔ ∃ a st₁, m st = .ok (a, st₁) ∧ k a st₁ = .ok (b, st') := by
  show (m st >>= fun x => k x.1 x.2) = _ ↔ _
  cases m st with
  | error e => simp [bind, Except.bind]
  | ok x =>
      obtain ⟨a, st₁⟩ := x
      constructor
      · exact fun hk => ⟨a, st₁, rfl, hk⟩
      · rintro ⟨_, _, heq, hk⟩
        cases heq
        exact hk

/-- Yielding a value leaves the state as it is. -/
theorem pure_eq_ok {a b : α} {st st' : ReaderState} :
    (pure a : Reader α) st = .ok (b, st') ↔ a = b ∧ st = st' := by
  show (Except.ok (a, st) : Except PatternError _) = _ ↔ _
  simp

/-- The reader leaves the groups `g` as they are, and its result has a property. The groups are a
parameter and not a hypothesis of every lemma, so that readers in sequence share them. -/
def Quiet (g : Groups) (m : Reader α) (p : α → Prop) : Prop :=
  ∀ st, st.groups = g → ∀ a st', m st = .ok (a, st') → st'.groups = g ∧ p a

section Quiet

variable {g : Groups} {p : α → Prop} {q : β → Prop}

/-- If the first of two readers opens no group, the second need only be looked at with the same
groups, and for results with the property. -/
theorem quiet_bind {m : Reader α} {k : α → Reader β} (h : Quiet g m p)
    (h' : ∀ a, p a → Quiet g (k a) q) : Quiet g (m >>= k) q := by
  intro st hst b st' hrun
  obtain ⟨a, st₁, hm, hk⟩ := bind_eq_ok.mp hrun
  obtain ⟨hst₁, ha⟩ := h st hst a st₁ hm
  exact h' a ha st₁ hst₁ b st' hk

/-- Yielding a value opens no group. -/
theorem quiet_pure {a : α} (h : p a) : Quiet g (pure a) p := by
  intro st hst b st' hrun
  obtain ⟨rfl, rfl⟩ := pure_eq_ok.mp hrun
  exact ⟨hst, h⟩

/-- A reader that fails yields nothing and opens nothing. -/
theorem quiet_fail {e : PatternError} : Quiet g (fail e : Reader α) p := by
  intro st hst b st' hrun
  cases hrun

/-- What comes after a failure does not matter. -/
theorem quiet_fail_bind {e : PatternError} {k : α → Reader β} {p' : β → Prop} :
    Quiet g (fail e >>= k) p' :=
  quiet_bind (p := fun _ => False) quiet_fail fun _ h => h.elim

/-- A computation that knows nothing of the state opens no group. What is known of its result is
known of the reader's. -/
theorem quiet_lift {x : Except PatternError α} (h : ∀ a, x = .ok a → p a) :
    Quiet g (liftM x : Reader α) p := by
  intro st hst b st' hrun
  cases hx : x with
  | error e =>
      rw [hx] at hrun
      cases hrun
  | ok a =>
      rw [hx] at hrun
      cases hrun
      exact ⟨hst, h _ hx⟩

/-- Looking at the state shows the groups as they are. -/
theorem quiet_get : Quiet g get fun st => st.groups = g := by
  intro st hst b st' hrun
  cases hrun
  exact ⟨hst, hst⟩

/-- Nothing is said about the result. Most readers of characters and words are of this kind. -/
abbrev Silent (g : Groups) (m : Reader α) : Prop := Quiet g m fun _ => True

/-- Looking at the state, without asking what it is. -/
theorem silent_get : Silent g get := by
  intro st hst a st' hrun
  cases hrun
  exact ⟨hst, trivial⟩

/-- A state with the same groups may be put in place. -/
theorem quiet_set {st : ReaderState} (h : st.groups = g) : Quiet g (set st) fun _ => True := by
  intro st₁ hst₁ b st' hrun
  cases hrun
  exact ⟨h, trivial⟩

/-- A change of the state that keeps the groups opens none. -/
theorem quiet_modify {f : ReaderState → ReaderState} (h : ∀ st, (f st).groups = st.groups) :
    Quiet g (modify f) fun _ => True := by
  intro st hst b st' hrun
  cases hrun
  exact ⟨(h st).trans hst, trivial⟩

/-- Less may be said about the result. -/
theorem Quiet.weaken {m : Reader α} {p' : α → Prop} (h : Quiet g m p) (hp : ∀ a, p a → p' a) :
    Quiet g m p' := by
  intro st hst a st' hrun
  obtain ⟨hst', ha⟩ := h st hst a st' hrun
  exact ⟨hst', hp a ha⟩

/-- Reading a token changes what is left of the pattern, and no group. -/
theorem silent_token (o : Options) : Silent g (token o) := by
  unfold token
  refine quiet_bind quiet_get fun st hst => quiet_bind (p := fun _ => True) (quiet_lift ?_) ?_
  · exact fun _ _ => trivial
  · exact fun x _ => quiet_bind (quiet_set hst) fun _ _ => quiet_pure trivial

/-- Reading a character changes what is left of the pattern. -/
theorem silent_char? : Silent g char? := by
  unfold char?
  refine quiet_bind quiet_get fun st hst => ?_
  split
  · exact quiet_pure trivial
  · exact quiet_bind (quiet_set hst) fun _ _ => quiet_pure trivial

/-- Where a character must follow, the reader may fail instead. -/
theorem silent_charOr (e : PatternError) : Silent g (charOr e) := by
  unfold charOr
  refine quiet_bind silent_char? fun c _ => ?_
  split
  · exact quiet_pure trivial
  · exact quiet_fail

/-- Looking at the next character changes nothing. -/
theorem silent_peek : Silent g peek :=
  quiet_bind quiet_get fun _ _ => quiet_pure trivial

/-- Going on with another rest of the pattern changes no group. -/
theorem silent_goOn (rest : List Char) : Silent g (goOn rest) := quiet_modify fun _ => rfl

/-- Callouts are counted apart from groups. -/
theorem silent_countCallout : Silent g countCallout :=
  quiet_bind quiet_get fun _ hst => quiet_bind (quiet_set hst) fun _ _ => quiet_pure trivial

/-- Which groups are referred to is noted, but they are not opened by that. -/
theorem silent_noteBackref (groups : List Nat) (byName : Bool) :
    Silent g (noteBackref groups byName) := quiet_modify fun _ => rfl

/-- Options for the whole pattern are noted in the state, or rejected. -/
theorem silent_noteWholeOptions (place : Place) : Silent g (noteWholeOptions place) := by
  unfold noteWholeOptions
  refine quiet_bind quiet_get fun st hst => ?_
  split
  · exact quiet_fail_bind
  · exact quiet_set hst

/-- The mode of text segments is a word of its own among the options. It is read and checked, and
has no effect on the groups or on anything else. -/
theorem silent_segmentMode : Silent g segmentMode := by
  unfold segmentMode
  refine quiet_bind silent_peek fun c _ => ?_
  split
  · exact quiet_fail
  · refine quiet_bind (silent_charOr _) fun _ _ => quiet_bind (silent_charOr _) fun mode _ => ?_
    dsimp only
    split
    · exact quiet_fail_bind
    · refine quiet_bind (silent_charOr _) fun close _ => ?_
      split
      · exact quiet_fail
      · exact quiet_pure trivial
  · exact quiet_fail

/-- Reading options changes no group, whatever letters they consist of. The induction is on the
fuel, which bounds the number of letters. -/
theorem silent_options (place : Place) (negative whole : Bool) (fuel : Nat) (c : Char)
    (o : Options) : Silent g (options place negative whole fuel c o) := by
  induction fuel generalizing negative whole c o with
  | zero => exact quiet_fail
  | succ fuel ih =>
      -- After most letters, the next one is read in the same way.
      have hnext : ∀ negative whole o, Silent g (do
          let d ← charOr .endInGroup
          options place negative whole fuel d o) := fun negative whole o =>
        quiet_bind (silent_charOr _) fun d _ => ih negative whole d o
      unfold options
      dsimp only
      split
      -- `)` ends the options, and `:` does unless they are for the whole pattern.
      case h_1 =>
        split
        · exact quiet_bind (silent_noteWholeOptions place) fun _ _ => quiet_pure trivial
        · exact quiet_pure trivial
      case h_2 =>
        split
        · exact quiet_fail
        · exact quiet_pure trivial
      -- `y` has a word of its own after it.
      case h_14 =>
        split
        · exact quiet_fail_bind
        · exact quiet_bind silent_segmentMode fun _ _ => hnext _ _ _
      case h_15 => exact quiet_fail
      -- `I`, `L` and `C` may not be switched off.
      case h_11 | h_12 | h_13 =>
        split
        · exact quiet_fail
        · exact hnext _ _ _
      -- The other letters are all alike.
      all_goals exact hnext _ _ _

/-- The groups that a reference is to are looked up, and noted. What is noted is looked at when all
groups are known, and opens none. -/
theorem silent_referredGroups (target : Referent) (written : List Char) :
    Silent g (referredGroups target written) := by
  unfold referredGroups
  split
  · -- By name
    refine quiet_bind quiet_get fun st _ => ?_
    split
    · exact quiet_fail
    · exact quiet_bind (silent_noteBackref _ _) fun _ _ => quiet_pure trivial
  · -- By number
    dsimp only
    split
    · exact quiet_fail_bind
    · exact quiet_bind (silent_noteBackref _ _) fun _ _ => quiet_pure trivial
  · -- By a number relative to the groups opened so far
    refine quiet_bind quiet_get fun st _ => ?_
    dsimp only
    split
    · exact quiet_fail_bind
    · exact quiet_bind (silent_noteBackref _ _) fun _ _ => quiet_pure trivial

/-- The parenthesis after a test is taken. -/
theorem silent_closing : Silent g closing := by
  unfold closing
  refine quiet_bind (silent_charOr _) fun close _ => ?_
  split
  · exact quiet_fail
  · exact quiet_pure trivial

/-- The test is a reference to groups, which captures nothing. If it turns out not to be one, there
is no result. -/
theorem quiet_referenceTest (c : Char) :
    Quiet g (referenceTest c) fun r => ∀ n, r = some n → n.numbers = [] := by
  unfold referenceTest
  refine quiet_bind quiet_get fun st hst => ?_
  dsimp only
  split
  · split
    · exact quiet_fail
    · exact quiet_pure (by simp)
  · refine quiet_bind (silent_goOn _) fun _ _ => ?_
    refine quiet_bind (silent_referredGroups _ _) fun groups _ => ?_
    -- A test of groups has no group in it, with a level or without.
    have hend : ∀ level, Quiet g (pure (some (Node.isSet groups level)))
        fun r => ∀ n, r = some n → n.numbers = [] := by
      refine fun level => quiet_pure fun n hn => ?_
      cases hn
      rfl
    split
    · exact quiet_bind silent_closing fun _ _ => hend _
    · exact hend _

/-- A run of characters is read token by token. The induction is on the fuel, and the run ends with
the first token that is no plain character. -/
theorem silent_plainRun (o : Options) (fuel : Nat) (acc : List Char) :
    Silent g (plainRun o fuel acc) := by
  induction fuel generalizing acc with
  | zero => exact quiet_fail
  | succ fuel ih =>
      unfold plainRun
      refine quiet_bind (silent_token o) fun t _ => ?_
      split
      · exact ih _
      · exact quiet_pure trivial

/-- The bytes that follow a first one are read as tokens as well. There are as many as the first one
promises. -/
theorem silent_byteRun_more (o : Options) (n : Nat) : Silent g (byteRun.more o n) := by
  induction n with
  | zero => exact quiet_pure trivial
  | succ n ih =>
      unfold byteRun.more
      refine quiet_bind (silent_token o) fun t _ => ?_
      split
      · exact quiet_bind ih fun _ _ => quiet_pure trivial
      · exact quiet_fail

/-- Bytes are a character, or match nothing if no character has them. Neither of the two nodes is a
group. -/
theorem quiet_byteRun (o : Options) (first : Nat) :
    Quiet g (byteRun o first) fun r => r.1.numbers = [] := by
  unfold byteRun
  refine quiet_bind (silent_byteRun_more o _) fun bs _ => ?_
  refine quiet_bind (silent_token o) fun t _ => ?_
  dsimp only
  split
  · exact quiet_fail_bind
  · split
    · exact quiet_pure rfl
    · exact quiet_pure rfl

/-- The spellings of a class that have several characters are strings, without groups. They stand
beside the set of the class as alternatives of it. -/
theorem numbers_longSpellings (c : CharClass) : Node.numbersOf (longSpellings c) = [] := by
  refine List.flatMap_eq_nil_iff.mpr fun n hn => ?_
  unfold longSpellings at hn
  split at hn
  · exact absurd hn List.not_mem_nil
  · obtain ⟨entry, _, hentry⟩ := List.mem_filterMap.mp hn
    split at hentry
    · cases hentry
      rw [Node.numbers_ofSeq]
      refine List.flatMap_eq_nil_iff.mpr fun m hm => ?_
      obtain ⟨d, _, rfl⟩ := List.mem_map.mp hm
      rfl
    · cases hentry

/-- A class of characters has no groups, with longer spellings or without. -/
theorem numbers_classNode (o : Options) (c : CharClass) : (classNode o c).numbers = [] := by
  unfold classNode
  split
  · rw [Node.numbers_ofAlts, Node.numbersOf_cons, numbers_longSpellings]
    rfl
  · rfl

/-- A token that is an item by itself opens no group. Among them are references and calls, which
name groups but are none. -/
theorem quiet_simpleItem (o : Options) (t : Token) :
    Quiet g (simpleItem o t) fun r => ∀ n, r = some n → n.numbers = [] := by
  have hsome : ∀ n : Node, n.numbers = [] →
      Quiet g (pure (some n)) fun r => ∀ n, r = some n → n.numbers = [] := by
    refine fun n hn => quiet_pure fun m hm => ?_
    cases hm
    exact hn
  unfold simpleItem
  split
  -- A code point may have no character.
  case h_1 => split <;> exact hsome _ rfl
  case h_10 => exact hsome _ (numbers_classNode o _)
  -- References change what the reader knows, but not the groups.
  case h_11 => exact quiet_bind (silent_noteBackref _ _) fun _ _ => hsome _ rfl
  case h_12 =>
    exact quiet_bind quiet_get fun st hst => quiet_bind (quiet_set hst) fun _ _ => hsome _ rfl
  -- A class has a reader of its own, which does not know of groups at all.
  case h_13 =>
    refine quiet_bind quiet_get fun st hst => quiet_bind (p := fun _ => True) (quiet_lift ?_) ?_
    · exact fun _ _ => trivial
    · exact fun x _ => quiet_bind (silent_goOn _) fun _ _ => hsome _ (numbers_classNode o _)
  case h_14 => exact quiet_pure (by simp)
  all_goals exact hsome _ rfl

/-- Quantifiers change nothing about the groups of what they stand on. There may be several, and
each stands on what the one before it has made. -/
theorem quiet_quantifiers (o : Options) (fuel : Nat) (front : List Node) (target : Node)
    (grouped wrapped : Bool) (t : Token) :
    Quiet g (quantifiers o fuel front target grouped wrapped t)
      fun r => Node.numbersOf r.1 = Node.numbersOf front ++ target.numbers := by
  induction fuel generalizing front target grouped wrapped t with
  | zero => exact quiet_fail
  | succ fuel ih =>
      unfold quantifiers
      split
      · rename_i q
        dsimp only
        split
        · exact quiet_fail_bind
        · refine quiet_bind (silent_token o) fun next _ => ?_
          have hnumbers := numbers_quantify ⟨q.least, q.most, q.greedy⟩ target grouped
          -- A possessive quantifier only adds an atomic group.
          have hclose : ∀ n : Node, (if q.possessive then n.atomic else n).numbers = n.numbers := by
            intro n
            split <;> rfl
          -- The target stays, is repeated as a whole, or only its last part is.
          split
          · exact ih _ _ _ _ _
          · rename_i n hq
            rw [hq] at hnumbers
            exact (ih _ _ _ _ _).weaken fun r hr => by rw [hr, hclose, ← hnumbers]; rfl
          · rename_i init last hq
            rw [hq] at hnumbers
            refine (ih _ _ _ _ _).weaken fun r hr => ?_
            rw [hr, hclose, ← hnumbers]
            simp [Quantify.numbers]
      · exact quiet_pure (by simp)

/-- The node of a callout has no groups, whatever the callout does. -/
theorem numbers_callout (name : String) (args : List (List Char)) (counter : Nat) :
    (Callout.node name args counter).numbers = [] := by
  unfold Callout.node
  split
  · rfl
  · rfl
  · -- An error is a mismatch or breaks off the search, as its number says.
    split <;> rfl
  · rfl
  · split <;> rfl
  · rfl

/-- A callout that is known by its name has no groups, with its arguments or without. Its tag is not
a group name either. -/
theorem numbers_of_named {counter : Nat} {s rest : List Char} {n : Node}
    (h : Callout.named counter s = .ok (n, rest)) : n.numbers = [] := by
  -- After the name is known, all checks are about its arguments.
  have hname : ∀ name args after, Callout.ofName counter name args after = .ok (n, rest) →
      n.numbers = [] := by
    intro name args after h
    unfold Callout.ofName at h
    split at h
    · cases h
    · split at h
      · cases h
      · split at h
        · cases h
        · split at h
          · cases h
          · split at h
            · cases h
              exact numbers_callout _ _ _
            · cases h
  unfold Callout.named at h
  dsimp only at h
  split at h
  · cases h
  · split at h
    · cases h
    · obtain ⟨after, _, h⟩ := exists_of_bind_eq_ok h
      obtain ⟨args, _, h⟩ := exists_of_bind_eq_ok h
      exact hname _ _ _ h

/-- A callout opens no group. -/
theorem quiet_callout : Quiet g callout fun n => n.numbers = [] := by
  unfold callout
  refine quiet_bind silent_countCallout fun k _ => quiet_bind quiet_get fun st _ => ?_
  refine quiet_bind (quiet_lift (p := fun r => r.1.numbers = []) ?_) fun r hr => ?_
  · exact fun r hr => numbers_of_named hr
  · exact quiet_bind (silent_goOn _) fun _ _ => quiet_pure hr

/-- A callout in another language opens no group either. Its text is not looked at. -/
theorem quiet_foreignText : Quiet g foreignText fun n => n.numbers = [] := by
  unfold foreignText
  refine quiet_bind silent_countCallout fun k _ => quiet_bind quiet_get fun st _ => ?_
  refine quiet_bind (quiet_lift (p := fun _ => True) ?_) fun r _ => ?_
  · exact fun _ _ => trivial
  · exact quiet_bind (silent_goOn _) fun _ _ => quiet_pure rfl

end Quiet

end Reader

end Highlight.Regex
