import Highlight.Proofs.Regex.Numbering
import Highlight.Proofs.Regex.Resolution
import Highlight.Proofs.Regex.Situation
import Mathlib.Data.List.Nodup

/-!
# `Highlight.Proofs.Regex.Alternatives`: alternatives that are named groups

Take a pattern whose alternatives are groups, each with a name, and suppose that a call inside
such a group goes to a group inside it. `separated_of_ofSyntax` says what its program is like. Its
tree still has these groups as its alternatives, under the numbers that they were read with, and
what is in them neither enters nor calls one of them.

The first part holds because all three steps of `Program.ofSyntax` work on alternatives one by
one, and named groups are never dropped. The second part rests on the numbering: no number
occurs twice, so a group inside an alternative has none of the numbers of the alternatives.
-/

set_option autoImplicit false

namespace Highlight.Regex

/-- The groups other than some, and other than the pattern as a whole. They are those that may be
inside alternatives. -/
def Inner (ks : List Nat) (g : Nat) : Prop := 0 < g ∧ g ∉ ks

/-- The program is an alternation of groups, and what is in them does not lead to one of them. The
last field is about what a call can reach: the bodies of all groups, not only those of the
alternatives. -/
structure Separated (p : Program) (alts : List (Nat × Node)) : Prop where
  body : p.body = Node.ofGroups alts
  positive : ∀ a ∈ alts, 0 < a.1
  distinct : (alts.map (·.1)).Nodup
  within : ∀ a ∈ alts, a.2.Within (Inner (alts.map (·.1)))
  closed : ∀ g body, 0 < g → (p.groups[g]?).join = some body →
    body.Within (Inner (alts.map (·.1)))

/-! ### Numbers -/

/-- If no number occurs twice in alternatives that are groups, none of their own numbers occurs
inside one of them. -/
theorem distinct_of_nodup {alts : List (Nat × Node)}
    (h : (alts.flatMap fun a => a.1 :: a.2.numbers).Nodup) :
    (alts.map (·.1)).Nodup ∧ ∀ a ∈ alts, ∀ a' ∈ alts, a.1 ∉ a'.2.numbers := by
  obtain ⟨heach, hpairs⟩ := List.nodup_flatMap.mp h
  constructor
  · refine List.pairwise_map.mpr (hpairs.imp fun {a a'} hdisjoint heq => ?_)
    exact hdisjoint List.mem_cons_self (heq ▸ List.mem_cons_self)
  · refine fun a ha a' ha' => List.Pairwise.forall_of_forall_of_flip
      (R := fun a a' : Nat × Node => a.1 ∉ a'.2.numbers) ?_ ?_ ?_ ha ha'
    · exact fun a ha => (List.nodup_cons.mp (heach a ha)).1
    · refine hpairs.imp fun {a a'} hdisjoint hmem => ?_
      exact hdisjoint List.mem_cons_self (List.mem_cons_of_mem _ hmem)
    · refine hpairs.imp fun {a a'} hdisjoint hmem => ?_
      exact hdisjoint (List.mem_cons_of_mem _ hmem) List.mem_cons_self

/-- If alternatives that are groups have been numbered from 1 on, the groups inside them are none
of theirs. -/
theorem inner_of_numbers {alts : List (Nat × Node)} {count : Nat}
    (h : (alts.flatMap fun a => a.1 :: a.2.numbers) = List.range' 1 count) :
    (alts.map (·.1)).Nodup ∧ (∀ a ∈ alts, 0 < a.1) ∧
      ∀ a ∈ alts, ∀ g ∈ a.2.numbers, Inner (alts.map (·.1)) g := by
  have hpositive : ∀ a ∈ alts, ∀ g ∈ a.1 :: a.2.numbers, 0 < g := by
    intro a ha g hg
    have hmem : g ∈ alts.flatMap fun a => a.1 :: a.2.numbers :=
      List.mem_flatMap.mpr ⟨a, ha, hg⟩
    rw [h, List.mem_range'_1] at hmem
    exact hmem.1
  -- The numbers from one on are distinct, whatever groups they are of.
  obtain ⟨hdistinct, hinside⟩ := distinct_of_nodup (h ▸ List.nodup_range')
  refine ⟨hdistinct, fun a ha => hpositive a ha a.1 List.mem_cons_self, ?_⟩
  intro a ha g hg
  refine ⟨hpositive a ha g (List.mem_cons_of_mem _ hg), ?_⟩
  -- An inner group with the number of an outer one would be listed twice.
  intro houter
  obtain ⟨a', ha', rfl⟩ := List.mem_map.mp houter
  exact hinside a' ha' a ha hg

/-- The groups of alternatives, and those inside them, lead no further than the alternatives do. So
the table of groups, by which calls find their way, keeps to the alternatives as well. -/
theorem within_of_bodies {alts : List (Nat × Node)} {A : Nat → Prop} {count g : Nat} {body : Node}
    (h : ∀ a ∈ alts, a.2.Within A) (hg : 0 < g)
    (hbody : ((Program.bodies count (Node.ofGroups alts))[g]?).join = some body) :
    body.Within A := by
  rcases Program.mem_of_bodies hbody with ⟨rfl, _⟩ | hmem
  · exact absurd hg (Nat.lt_irrefl 0)
  · rw [Node.captures_ofGroups] at hmem
    obtain ⟨a, ha, hmem⟩ := List.mem_flatMap.mp hmem
    rcases List.mem_cons.mp hmem with heq | hmem
    · obtain ⟨rfl, rfl⟩ := Prod.mk.inj heq
      exact h a ha
    · exact (Node.enters_of_mem_captures (h a ha) hmem).2

/-- A group that is found by a name is listed with it. -/
theorem Groups.mem_of_mem_find {g : Groups} {name : List Char} {k : Nat} (h : k ∈ g.find name) :
    ∃ e ∈ g.names, k ∈ e.2 := by
  unfold Groups.find at h
  split at h
  · rename_i hfind
    exact ⟨_, List.mem_of_find?_eq_some hfind, h⟩
  · exact absurd h List.not_mem_nil

/-- A group with a name is counted, so a pattern with names knows that it has some. -/
theorem Groups.Sound.named_ne_zero {g : Groups} (h : g.Sound) {k : Nat}
    (hk : ∃ e ∈ g.names, k ∈ e.2) : g.named ≠ 0 := by
  intro hzero
  obtain ⟨e, he, _⟩ := hk
  rw [h.named hzero] at he
  exact absurd he List.not_mem_nil

/-- Beside named groups, only groups with a name can be called. A call by number is refused then,
and so is a name that several groups have. -/
theorem Program.callTarget_eq_ok {groups : Groups} {ref : GroupRef} {written : List Char} {g : Nat}
    (hnamed : groups.named ≠ 0) (h : callTarget groups ref written = .ok g) :
    ∃ name, ref = .name name ∧ groups.find name = [g] := by
  unfold callTarget at h
  split at h
  · rw [if_pos (Nat.pos_of_ne_zero hnamed)] at h
    cases h
  · rename_i name
    split at h
    · cases h
    · rename_i hfind
      cases h
      exact ⟨name, rfl, hfind⟩
    · cases h

/-! ### Programs -/

section

variable {s : Syntax} {p : Program} {alts : List (Nat × Node)}

/-- A call inside an alternative, if it can be resolved, goes to a group inside it. -/
def CallsInside (s : Syntax) (n : Node) : Prop :=
  n.Enters (fun _ => True) fun k => ∃ c, s.calls[k]? = some c ∧
    ∀ g, Program.callTarget s.groups c.1 c.2 = .ok g → g ∈ n.numbers

/-- Dropping groups that do not capture leaves the alternatives as they are, but for what is in
them. They are groups with names, which are kept in any case. -/
theorem capturing_ofGroups (htree : s.tree = Node.ofGroups alts)
    (hnamed : ∀ a ∈ alts, ∃ e ∈ s.groups.names, a.1 ∈ e.2) :
    ∃ f : Node → Node, (∀ (G C : Nat → Prop) (n : Node), n.Enters G C → (f n).Enters G C) ∧
      Program.capturing s = Node.ofGroups (alts.map fun a => (a.1, f a.2)) := by
  unfold Program.capturing
  split
  · -- Unnamed groups do not capture. The outer ones are named, and stay.
    refine ⟨Node.dropGroups (s.groups.names.flatMap (·.2)).contains,
      fun G C n h => Node.enters_dropGroups _ h, ?_⟩
    rw [htree]
    refine Node.dropGroups_ofGroups fun a ha => ?_
    obtain ⟨e, he, hmem⟩ := hnamed a ha
    rw [List.contains_iff_mem]
    exact List.mem_flatMap.mpr ⟨e, he, hmem⟩
  · -- All groups capture, and the tree stays as it is.
    refine ⟨id, fun G C n h => h, ?_⟩
    rw [htree]
    simp

/-- Beside named groups, a pattern does not call itself as a whole. That would be a call of number
0, and a group with a name has a greater number. -/
theorem pos_of_mem_targets (hsound : s.groups.Sound) (hnamed : s.groups.named ≠ 0)
    {targets : List Nat}
    (htargets : s.calls.mapM (fun c => Program.callTarget s.groups c.1 c.2) = .ok targets)
    {g : Nat} (hg : g ∈ targets) : 0 < g := by
  obtain ⟨c, _, hc⟩ := exists_of_mem_mapM htargets hg
  obtain ⟨name, _, hfind⟩ := Program.callTarget_eq_ok hnamed hc
  have hmem : g ∈ s.groups.find name := by
    rw [hfind]
    exact List.mem_singleton_self g
  obtain ⟨e, he, hge⟩ := Groups.mem_of_mem_find hmem
  exact (hsound.bounds e.1 g ⟨e, he, rfl, hge⟩).1

/-- An alternative that has been numbered with the others, and whose calls go to groups inside it,
still leads to none of the others once its calls and look-behinds have been seen to. -/
theorem within_of_prepare {ks : List Nat} {n n' : Node} {targets : List Nat} {f : Node → Node}
    {table : GroupTable} {fuel : Nat} (hinner : ∀ g ∈ n.numbers, Inner ks g)
    (hcalls : CallsInside s n)
    (htargets : s.calls.mapM (fun c => Program.callTarget s.groups c.1 c.2) = .ok targets)
    (hf : ∀ (G C : Nat → Prop) (m : Node), m.Enters G C → (f m).Enters G C)
    (hprepare : LookBehind.prepare table fuel
      ((f n).resolveCalls fun k => targets.getD k 0) = .ok n') : n'.Within (Inner ks) := by
  have hread := (Node.enters_iff n).mpr ⟨hinner, hcalls⟩
  refine LookBehind.enters_prepare (Node.enters_resolveCalls ?_ (hf _ _ _ hread)) hprepare
  -- A call goes to a group inside the alternative, and that group is numbered.
  rintro k ⟨c, hc, hinside⟩
  obtain ⟨g, hg, htarget⟩ := getElem?_of_mapM_eq_ok htargets hc
  rw [List.getD_eq_getElem?_getD, hg]
  exact hinner g (hinside g htarget)

/-- The program of a pattern that consists of named groups is such an alternation, under the numbers
that the groups were read with. -/
theorem separated_of_ofSyntax (h : Program.ofSyntax s = .ok p) (hsound : s.groups.Sound)
    (hnumbers : s.tree.numbers = List.range' 1 s.groups.count)
    (htree : s.tree = Node.ofGroups alts) (hne : alts ≠ [])
    (hnamed : ∀ a ∈ alts, ∃ e ∈ s.groups.names, a.1 ∈ e.2)
    (hcalls : ∀ a ∈ alts, CallsInside s a.2) :
    ∃ alts', alts'.map (·.1) = alts.map (·.1) ∧ Separated p alts' := by
  obtain ⟨targets, table, fuel, htargets, hprepare, hgroups, hnames⟩ := Program.ofSyntax_eq_ok h
  rw [htree, Node.numbers_ofGroups] at hnumbers
  obtain ⟨hdistinct, hpositive, hinner⟩ := inner_of_numbers hnumbers
  have hsomeNamed : s.groups.named ≠ 0 := by
    obtain ⟨a, ha⟩ := List.exists_mem_of_ne_nil alts hne
    exact hsound.named_ne_zero (hnamed a ha)
  -- No call leads to the pattern as a whole, so it is not put in a group of its own.
  have hzero : ¬ targets.contains 0 := by
    rw [List.contains_iff_mem]
    intro hmem
    exact absurd (pos_of_mem_targets hsound hsomeNamed htargets hmem) (Nat.lt_irrefl 0)
  -- All three steps of the preparation are taken on each alternative alone.
  obtain ⟨f, hf, hcapturing⟩ := capturing_ofGroups htree hnamed
  unfold Program.resolved at hprepare
  dsimp only at hprepare
  rw [if_neg hzero, hcapturing, Node.resolveCalls_ofGroups] at hprepare
  obtain ⟨alts', hbody, hall⟩ := LookBehind.prepare_ofGroups hprepare
  simp only [List.map_map, List.forall₂_map_left_iff, Function.comp] at hall
  have hmap : alts'.map (·.1) = alts.map (·.1) := by
    have hfirst : List.Forall₂ Eq (alts.map (·.1)) (alts'.map (·.1)) := by
      rw [List.forall₂_map_left_iff, List.forall₂_map_right_iff]
      exact hall.imp fun _ _ h => h.1.symm
    rw [List.forall₂_eq_eq_eq] at hfirst
    exact hfirst.symm
  have hwithin : ∀ a' ∈ alts', a'.2.Within (Inner (alts.map (·.1))) := by
    intro a' ha'
    obtain ⟨a, ha, _, hprepared⟩ := exists_of_forall₂ hall ha'
    exact within_of_prepare (hinner a ha) (hcalls a ha) htargets hf hprepared
  have hpositive' : ∀ a' ∈ alts', 0 < a'.1 := by
    intro a' ha'
    obtain ⟨a, ha, heq, _⟩ := exists_of_forall₂ hall ha'
    rw [heq]
    exact hpositive a ha
  rw [← hmap] at hwithin hdistinct
  refine ⟨alts', hmap, hbody, hpositive', hdistinct, hwithin, ?_⟩
  intro g body hg hgroup
  rw [hgroups, hbody] at hgroup
  exact within_of_bodies hwithin hg hgroup

end

end Highlight.Regex
