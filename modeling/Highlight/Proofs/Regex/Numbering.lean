import Highlight.Proofs.Regex.Quiet

/-!
# `Highlight.Proofs.Regex.Numbering`: the order in which groups are numbered

Groups are numbered in the order in which they open. `numbers_of_read` is the result: the groups
of a pattern that has been read bear the numbers from 1 on, in the order of the tree and without
a gap. So no two groups have the same number, and a group inside another one has a number of its
own, however it is written and whatever stands before it.

`Reader.Opens` says that a reader has this property, relative to the numbers that stand before
its result. It composes by `opens_bind`, so there is one lemma for each function of the reader.
Those that call each other are done together, by induction on the fuel (`Reader.inOrder`).
-/

set_option autoImplicit false

namespace Highlight.Regex

namespace Reader

variable {α β : Type}

/-- The groups that the reader opens bear the next numbers, and these follow `before` in what
`numbers` says of its result. With `before`, a reader can be followed by another one that puts its
result behind what has been read already. -/
def Opens (before : List Nat) (m : Reader α) (numbers : α → List Nat) : Prop :=
  ∀ st a st', m st = .ok (a, st') → st.groups.Extends st'.groups ∧
    numbers a
      = before ++ List.range' (st.groups.count + 1) (st'.groups.count - st.groups.count)

section Opens

variable {before : List Nat} {f : α → List Nat} {f' : β → List Nat}

/-- Two readers in sequence: what the first has read stands before what the second reads. Their
groups have numbers one after another, so the two ranges of numbers make one. -/
theorem opens_bind {m : Reader α} {k : α → Reader β} (h : Opens before m f)
    (h' : ∀ a, Opens (f a) (k a) f') : Opens before (m >>= k) f' := by
  intro st b st' hrun
  obtain ⟨a, st₁, hm, hk⟩ := bind_eq_ok.mp hrun
  obtain ⟨hext, hnumbers⟩ := h st a st₁ hm
  obtain ⟨hext', hnumbers'⟩ := h' a st₁ b st' hk
  refine ⟨hext.trans hext', ?_⟩
  have hle := hext.count_le
  have hle' := hext'.count_le
  -- The numbers of the second begin where those of the first end.
  have hstart : st₁.groups.count + 1
      = st.groups.count + 1 + (st₁.groups.count - st.groups.count) := by omega
  have hlength : st'.groups.count - st.groups.count
      = (st₁.groups.count - st.groups.count) + (st'.groups.count - st₁.groups.count) := by omega
  rw [hnumbers', hnumbers, List.append_assoc, hstart, List.range'_append_1, hlength]

/-- A reader that only yields what stands before it opens no group. -/
theorem opens_pure {a : α} (h : f a = before) : Opens before (pure a) f := by
  intro st b st' hrun
  obtain ⟨rfl, rfl⟩ := pure_eq_ok.mp hrun
  exact ⟨.refl _, by simp [h]⟩

/-- A reader that fails yields nothing. -/
theorem opens_fail {e : PatternError} : Opens before (fail e : Reader α) f := by
  intro st b st' hrun
  cases hrun

/-- What comes after a failure does not matter. -/
theorem opens_fail_bind {e : PatternError} {k : α → Reader β} :
    Opens before (fail e >>= k) f' := by
  intro st b st' hrun
  cases hrun

/-- A reader that opens no group may come first. What it knows of its result can be used after
it. -/
theorem opens_after {m : Reader α} {k : α → Reader β} {p : α → Prop} (h : ∀ g, Quiet g m p)
    (h' : ∀ a, p a → Opens before (k a) f') : Opens before (m >>= k) f' := by
  intro st b st' hrun
  obtain ⟨a, st₁, hm, hk⟩ := bind_eq_ok.mp hrun
  obtain ⟨hst₁, ha⟩ := h st.groups st rfl a st₁ hm
  have hopens := h' a ha st₁ b st' hk
  rwa [hst₁] at hopens

/-- A reader that opens no group may also come last, if its result has the groups that stand before
it. -/
theorem opens_of_quiet {m : Reader α} (h : ∀ g, Quiet g m fun a => f a = before) :
    Opens before m f := by
  intro st a st' hrun
  obtain ⟨hst', ha⟩ := h st.groups st rfl a st' hrun
  rw [hst']
  exact ⟨.refl _, by simp [ha]⟩

/-- Opening a group, with a name or without, gives it the next number. If there are as many groups
as there may be, it fails instead. -/
theorem opens_openGroup (name : Option (List Char)) :
    Opens before (openGroup name) fun k => before ++ [k] := by
  -- The two ways of opening differ in what they do to the names only.
  have hopen : ∀ groups : Groups → Groups, (∀ g : Groups, g.Extends (groups g)) →
      (∀ g : Groups, (groups g).count = g.count + 1) → Opens before (do
        let st ← get
        if maxGroups ≤ st.groups.count then fail .tooManyGroups
        set { st with groups := groups st.groups }
        return (groups st.groups).count) fun k => before ++ [k] := by
    intro groups hext hcount st k st' hrun
    obtain ⟨_, _, hget, hrun⟩ := bind_eq_ok.mp hrun
    cases hget
    split at hrun
    · cases hrun
    · cases hrun
      refine ⟨hext _, ?_⟩
      simp [hcount]
  cases name with
  | none => exact hopen Groups.openPlain Groups.extends_openPlain fun _ => rfl
  | some n =>
      have hext := fun g => Groups.extends_openNamed g n
      exact hopen (fun g => g.openNamed n) hext fun _ => rfl

/-! ### Groups -/

/-- The numbers of the groups in what a parenthesis opened. Options for the rest of a group have
none. -/
def itemNumbers : GroupItem → List Nat
  | .node n | .plain n => n.numbers
  | .options _ => []

section Group

variable {o : Options} {body : Options → Place → Reader (List Node)}
  (hbody : ∀ before o place, Opens before (body o place) fun ns => before ++ Node.numbersOf ns)

include hbody

/-- What a parenthesis opened is made of the body alone. -/
theorem opens_body {o' : Options} {place : Place} {item : List Node → GroupItem}
    (hitem : ∀ ns, itemNumbers (item ns) = Node.numbersOf ns) :
    Opens before (do return item (← body o' place)) fun i => before ++ itemNumbers i :=
  opens_bind (hbody before o' place) fun ns => opens_pure (by rw [hitem])

/-- A group that captures opens before what is in it, so its number comes first. -/
theorem opens_capture (name : Option (List Char)) :
    Opens before (capture o body name) fun i => before ++ itemNumbers i := by
  refine opens_bind (opens_openGroup name) fun k => opens_bind (hbody _ o _) fun ns => ?_
  exact opens_pure (by simp [itemNumbers])

/-- A group with a name is one that captures. Its name is read before it opens. -/
theorem opens_namedGroup (close : Char) :
    Opens before (namedGroup o body close) fun i => before ++ itemNumbers i := by
  refine opens_after (fun _ => silent_get) fun st _ => ?_
  refine opens_after (p := fun _ => True) (fun _ => quiet_lift fun _ _ => trivial) fun r _ => ?_
  exact opens_after (fun _ => silent_goOn _) fun _ _ => opens_capture hbody _

/-- After `(?<` there is a look-behind or a name. The character that follows tells them apart, and
only the name opens a group of its own. -/
theorem opens_behindOrNamed :
    Opens before (behindOrNamed o body) fun i => before ++ itemNumbers i := by
  unfold behindOrNamed
  refine opens_after (fun _ => silent_peek) fun c _ => ?_
  split
  · exact opens_fail
  · refine opens_after (fun _ => silent_charOr _) fun _ _ => ?_
    exact opens_body hbody fun ns => by simp [itemNumbers]
  · refine opens_after (fun _ => silent_charOr _) fun _ _ => ?_
    exact opens_body hbody fun ns => by simp [itemNumbers]
  · exact opens_namedGroup hbody _

/-- An absence operator, which may have two parts. Its alternatives make up both of them, the first
alternative being what must not occur. -/
theorem opens_absence : Opens before (absence o body) fun i => before ++ itemNumbers i := by
  unfold absence
  refine opens_after (fun _ => silent_peek) fun c _ => ?_
  split
  · exact opens_fail
  · refine opens_after (fun _ => silent_charOr _) fun _ _ => ?_
    refine opens_after (fun _ => silent_peek) fun c _ => ?_
    split
    · exact opens_fail
    · exact opens_after (fun _ => silent_charOr _) fun _ _ => opens_pure (by simp [itemNumbers])
    · refine opens_bind (hbody before o _) fun ns => ?_
      split <;> exact opens_pure (by simp [itemNumbers])
  · exact opens_body hbody fun ns => by simp [itemNumbers]

/-- The test of a conditional that is a pattern of its own. -/
theorem opens_ordinaryTest (c : Char) :
    Opens before (ordinaryTest o body c) fun n => before ++ n.numbers := by
  refine opens_after (fun _ => quiet_modify fun _ => rfl) fun _ _ => ?_
  exact opens_bind (hbody before o _) fun ns => opens_pure (by simp)

/-- The test of a conditional, of whichever kind it is: a reference, a callout or a pattern. Only a
pattern can have groups in it. -/
theorem opens_conditionTest (c : Char) :
    Opens before (conditionTest o body c) fun r => before ++ r.1.numbers := by
  -- Three of the branches end in a test that is a pattern.
  have hordinary : Opens before (do return (← ordinaryTest o body c, false))
      fun r : Node × Bool => before ++ r.1.numbers :=
    opens_bind (opens_ordinaryTest hbody c) fun _ => opens_pure rfl
  unfold conditionTest
  split
  · -- What looks like a reference need not be one.
    refine opens_after (fun _ => quiet_referenceTest c) fun r hr => ?_
    split
    · exact opens_pure (by simp [hr _ rfl])
    · exact hordinary
  · split
    · exact opens_after (fun _ => quiet_callout) fun n hn => opens_pure (by simp [hn])
    · refine opens_after (fun _ => silent_peek) fun d _ => ?_
      split
      · -- A callout in another language
        refine opens_after (fun _ => silent_charOr _) fun _ _ => ?_
        exact opens_after (fun _ => quiet_foreignText) fun n hn => opens_pure (by simp [hn])
      · exact hordinary

/-- A conditional: its test comes first, then the branch for a test that holds, and then the other
one. -/
theorem opens_conditional : Opens before (conditional o body) fun i => before ++ itemNumbers i := by
  unfold conditional
  refine opens_after (fun _ => silent_charOr _) fun c _ => ?_
  refine opens_after (fun _ => silent_peek) fun d _ => ?_
  dsimp only
  split
  · exact opens_fail_bind
  · refine opens_bind (opens_conditionTest hbody c) fun r => ?_
    refine opens_after (fun _ => silent_peek) fun e _ => ?_
    split
    · exact opens_fail
    · -- A test without branches
      split
      · exact opens_fail_bind
      · exact opens_after (fun _ => silent_charOr _) fun _ _ => opens_pure rfl
    · -- The branch for a test that holds is empty.
      refine opens_after (fun _ => silent_charOr _) fun _ _ => ?_
      exact opens_bind (hbody _ o _) fun ns => opens_pure (by simp [itemNumbers])
    · -- The first alternative is that branch, and the others are for a test that fails.
      refine opens_bind (hbody _ o _) fun ns => ?_
      split <;> exact opens_pure (by simp [itemNumbers])

/-- What begins with `(?`. The kinds that have a reader of their own come first, and all others are
a body with something around it. -/
theorem opens_special (fuel : Nat) (place : Place) :
    Opens before (special o body fuel place) fun i => before ++ itemNumbers i := by
  unfold special
  refine opens_after (fun _ => silent_charOr _) fun c _ => ?_
  split
  -- A name, what begins with `<`, an absence, a foreign text, a conditional, and options
  case h_5 => exact opens_namedGroup hbody _
  case h_6 => exact opens_behindOrNamed hbody
  case h_7 => exact opens_absence hbody
  case h_8 =>
    exact opens_after (fun _ => quiet_foreignText) fun n hn =>
      opens_pure (by simp [itemNumbers, hn])
  case h_9 => exact opens_conditional hbody
  case h_10 =>
    refine opens_after (fun _ => silent_options _ _ _ _ _ _) fun r _ => ?_
    obtain ⟨hasBody, inner⟩ := r
    dsimp only
    split
    · exact opens_body hbody fun ns => by simp [itemNumbers]
    · exact opens_pure (by simp [itemNumbers])
  -- In all other groups, the body is all there is.
  all_goals exact opens_body hbody fun ns => by simp [itemNumbers]

/-- What a parenthesis opens, of whichever kind it is. What begins with a star is a callout, what
begins with a question mark is special, and all else is a group, or at least looks like one. -/
theorem opens_opened (fuel : Nat) (place : Place) :
    Opens before (opened o body fuel place) fun i => before ++ itemNumbers i := by
  unfold opened
  refine opens_after (fun _ => silent_peek) fun c _ => ?_
  split
  · exact opens_fail
  · refine opens_after (fun _ => silent_charOr _) fun _ _ => ?_
    exact opens_after (fun _ => quiet_callout) fun n hn => opens_pure (by simp [itemNumbers, hn])
  · exact opens_after (fun _ => silent_charOr _) fun _ _ => opens_special hbody _ _
  · -- Whether a parenthesis alone captures is an option.
    split
    · exact opens_body hbody fun ns => by simp [itemNumbers]
    · exact opens_capture hbody _

end Group

/-! ### Patterns -/

/-- The functions that call each other read in order, with that much fuel. Items are read with the
nodes that stand before them in their branch, so those come in `before`. -/
structure InOrder (fuel : Nat) : Prop where
  alternatives : ∀ before o inGroup depth place t,
    Opens before (alternatives o inGroup fuel depth place t)
      fun ns => before ++ Node.numbersOf ns
  branch : ∀ before o inGroup depth place t,
    Opens before (branch o inGroup fuel depth place t) fun r => before ++ r.1.numbers
  items : ∀ before o inGroup depth place acc t,
    Opens (before ++ Node.numbersOf acc) (items o inGroup fuel depth place acc t)
      fun r => before ++ Node.numbersOf r.1
  item : ∀ before o inGroup depth place t,
    Opens before (item o inGroup fuel depth place t) fun r => before ++ Node.numbersOf r.1
  group : ∀ before o depth place,
    Opens before (group o fuel depth place) fun i => before ++ itemNumbers i

/-- A check that stops the reader goes before anything else. -/
theorem opens_unless {c : Prop} [Decidable c] {e : PatternError} {k : PUnit → Reader α}
    {m : Reader α} (h : Opens before m f) :
    Opens before (if c then fail e >>= k else m) f := by
  split
  · exact opens_fail_bind
  · exact h

/-- Alternatives are read from left to right, each as a branch. So the groups of one alternative
have smaller numbers than those of the next. -/
theorem opens_alternatives {fuel : Nat} (ih : InOrder fuel) (o : Options) (inGroup : Bool)
    (depth : Nat) (place : Place) (t : Token) :
    Opens before (alternatives o inGroup (fuel + 1) depth place t)
      fun ns => before ++ Node.numbersOf ns := by
  unfold alternatives
  refine opens_unless (opens_bind (ih.branch before o inGroup _ place t) fun r => ?_)
  obtain ⟨n, t⟩ := r
  dsimp only
  split
  · -- After a bar the other alternatives follow, and the bar itself opens no group.
    refine opens_after (fun _ => silent_token o) fun t _ => ?_
    refine opens_bind (ih.alternatives _ o inGroup depth _ t) fun ns => ?_
    exact opens_pure (by simp)
  · exact opens_pure (by simp)
  · split
    · exact opens_fail
    · exact opens_pure (by simp)

/-- A branch is a row of items, which are put together at its end. Joining literals changes no
group. -/
theorem opens_branch {fuel : Nat} (ih : InOrder fuel) (o : Options) (inGroup : Bool)
    (depth : Nat) (place : Place) (t : Token) :
    Opens before (branch o inGroup (fuel + 1) depth place t) fun r => before ++ r.1.numbers := by
  unfold branch
  -- A branch begins without items.
  have hitems := ih.items before o inGroup (depth + 1) place [] t
  rw [Node.numbersOf_nil, List.append_nil] at hitems
  refine opens_unless (opens_bind hitems fun r => ?_)
  exact opens_pure (by simp)

/-- The items of a branch are read one after another, behind those that have been read. Where the
branch ends, the list of all of them is returned. -/
theorem opens_items {fuel : Nat} (ih : InOrder fuel) (o : Options) (inGroup : Bool)
    (depth : Nat) (place : Place) (acc : List Node) (t : Token) :
    Opens (before ++ Node.numbersOf acc) (items o inGroup (fuel + 1) depth place acc t)
      fun r => before ++ Node.numbersOf r.1 := by
  unfold items
  refine opens_bind (ih.item _ o inGroup depth place t) fun r => ?_
  obtain ⟨ns, t⟩ := r
  -- What has been read is one list with what was read before, as the statement has it for the rest.
  rw [List.append_assoc, ← Node.numbersOf_append]
  dsimp only
  split
  · exact opens_pure rfl
  · exact opens_pure rfl
  · split
    · exact opens_pure rfl
    · exact opens_fail
  · exact ih.items before o inGroup depth _ _ _

/-- After an item come its quantifiers, which open no group. -/
theorem opens_quantified (o : Options) (fuel : Nat) (n : Node) (grouped wrapped : Bool)
    (t : Token) :
    Opens (before ++ n.numbers) (quantifiers o fuel [] n grouped wrapped t)
      fun r => before ++ Node.numbersOf r.1 :=
  opens_of_quiet fun _ => (quiet_quantifiers o fuel [] n grouped wrapped t).weaken
    fun r hr => by rw [hr]; rfl

/-- An item: nothing at the end of a branch, a run of characters, a group, or something by itself.
Only a group has numbers to give out; the others are leaves. -/
theorem opens_item {fuel : Nat} (ih : InOrder fuel) (o : Options) (inGroup : Bool)
    (depth : Nat) (place : Place) (t : Token) :
    Opens before (item o inGroup (fuel + 1) depth place t)
      fun r => before ++ Node.numbersOf r.1 := by
  have hleaf : ∀ {n : Node} {t}, n.numbers = [] →
      Opens before (quantifiers o (fuel + 1) [] n false false t)
        fun r => before ++ Node.numbersOf r.1 := by
    -- A leaf has no groups, so its quantifiers have none either.
    intro n t hn
    have h : Opens (before ++ n.numbers) (quantifiers o (fuel + 1) [] n false false t)
        fun r => before ++ Node.numbersOf r.1 := opens_quantified o _ n _ _ t
    rwa [hn, List.append_nil] at h
  unfold item
  split
  case h_1 => exact opens_pure (by simp)
  case h_2 => exact opens_pure (by simp)
  case h_3 =>
    split
    · exact opens_pure (by simp)
    · exact opens_fail
  case h_4 => exact opens_fail
  case h_5 => exact opens_after (fun _ => silent_plainRun o _ _) fun r _ => hleaf rfl
  case h_6 => exact opens_after (fun _ => quiet_byteRun o _) fun r hr => hleaf hr
  -- After a group, the options for the rest of the enclosing group may have changed.
  case h_7 =>
    refine opens_bind (ih.group before o depth place) fun i => ?_
    split
    · exact opens_after (fun _ => silent_token o) fun t _ => opens_quantified _ _ _ _ _ _
    · exact opens_after (fun _ => silent_token o) fun t _ => opens_quantified _ _ _ _ _ _
    · rename_i o'
      refine opens_after (fun _ => silent_token o') fun t _ => ?_
      refine opens_bind (ih.alternatives _ o' inGroup depth _ t) fun ns => ?_
      exact opens_pure (by simp [itemNumbers])
  case h_8 =>
    refine opens_after (fun _ => quiet_simpleItem o _) fun r hr => ?_
    split
    · exact opens_after (fun _ => silent_token o) fun t _ => hleaf (hr _ rfl)
    · exact opens_fail

/-- A group is what its parenthesis opens, with its alternatives as the body. -/
theorem opens_group {fuel : Nat} (ih : InOrder fuel) (o : Options) (depth : Nat) (place : Place) :
    Opens before (group o (fuel + 1) depth place) fun i => before ++ itemNumbers i := by
  unfold group
  refine opens_opened (fun before o place => ?_) _ _
  exact opens_after (fun _ => silent_token o) fun t _ => ih.alternatives before o true depth place t

/-- The functions that call each other read in order, with any fuel. The induction is on the fuel,
which all of them use up together. -/
theorem inOrder (fuel : Nat) : InOrder fuel := by
  induction fuel with
  | zero =>
      -- Without fuel, nothing is read.
      constructor <;> intros <;> exact opens_fail
  | succ fuel ih =>
      exact ⟨fun _ => opens_alternatives ih, fun _ => opens_branch ih, fun _ => opens_items ih,
        fun _ => opens_item ih, fun _ => opens_group ih⟩

end Opens

end Reader

/-- The groups of a pattern bear the numbers from 1 on, in their order. No number is left out, and
the list of the names is sound. -/
theorem Syntax.numbers_of_read {pattern : List Char} {s : Syntax}
    (h : Syntax.read pattern = .ok s) :
    s.tree.numbers = List.range' 1 s.groups.count ∧ s.groups.Sound := by
  unfold Syntax.read at h
  dsimp only at h
  split at h
  · cases h
  · rename_i tree st hrun
    cases h
    -- The whole pattern is a list of alternatives between two steps that open no group.
    have hopens : Reader.Opens [] (do
        let t ← Reader.token .initial
        let ns ← Reader.alternatives .initial false (8 * pattern.length + 64) 0 .start t
        if (← get).wholeOptions = some false then Reader.fail .misplacedGroupOption
        return Node.ofAlts ns) Node.numbers := by
      refine Reader.opens_after (fun _ => Reader.silent_token _) fun t _ => ?_
      refine Reader.opens_bind ((Reader.inOrder _).alternatives [] _ _ _ _ _) fun ns => ?_
      refine Reader.opens_after (fun _ => Reader.silent_get) fun st _ => ?_
      refine Reader.opens_unless ?_
      exact Reader.opens_pure (by simp)
    obtain ⟨hext, hnumbers⟩ := hopens _ _ _ hrun
    exact ⟨hnumbers, hext.sound Groups.sound_none⟩

end Highlight.Regex
