import Highlight.Proofs.Except
import Highlight.Proofs.Regex.Numbers
import Highlight.Regex.Program

/-!
# `Highlight.Proofs.Regex.Resolution`: what becomes of a tree that has been read

`Program.ofSyntax` makes the tree to match from the tree that has been read: groups without a
use are dropped, calls are resolved, and look-behinds are prepared. None of the three adds a
group or a call (`enters_dropGroups`, `enters_resolveCalls`, `enters_prepare`), and all of them
work on each alternative alone.
-/

set_option autoImplicit false

namespace Highlight.Regex

variable {G C : Nat → Prop}

/-! ### Trees -/

/-- A repetition of a repetition enters what its body does. -/
theorem enters_nest {outer inner : Bounds} {body : Node} (h : body.Enters G C) :
    (nest outer inner body).Enters G C := by
  unfold nest
  split
  · split <;> exact h
  · split <;> exact h

namespace Node

/-- Dropping groups adds none. Where a group is dropped inside a repetition, two repetitions may
become one. -/
theorem enters_dropGroups (keep : Nat → Bool) {n : Node} (h : n.Enters G C) :
    (n.dropGroups keep).Enters G C := by
  induction n with
  | capture g body ih =>
      unfold dropGroups
      split
      · exact ⟨h.1, ih h.2⟩
      · exact ih h.2
  | many body least most greedy ih =>
      have hbody := ih h
      unfold dropGroups
      dsimp only
      split
      · -- A quantifier may now stand around another one, since the group between them is gone. The
        -- two are made one.
        rename_i hdropped
        rw [hdropped] at hbody
        exact enters_nest hbody
      · exact hbody
  | seq a b iha ihb => exact ⟨iha h.1, ihb h.2⟩
  | alt a b iha ihb => exact ⟨iha h.1, ihb h.2⟩
  | absentIn a b iha ihb => exact ⟨iha h.1, ihb h.2⟩
  | cond t yes no iht ihy ihn => exact ⟨iht h.1, ihy h.2.1, ihn h.2.2⟩
  | scope body ih | atomic body ih | ahead _ body ih | behind _ _ body ih | absent body ih
  | absentCut body ih => exact ih h
  | _ => exact h

/-- Resolving calls changes what they go to, and nothing about the groups. So only the condition on
calls changes, and the one on groups stays. -/
theorem enters_resolveCalls {C' : Nat → Prop} {target : Nat → Nat}
    (hC : ∀ k, C k → C' (target k)) {n : Node} (h : n.Enters G C) :
    (n.resolveCalls target).Enters G C' := by
  induction n with
  | call k => exact hC k h
  | capture g body ih => exact ⟨h.1, ih h.2⟩
  | seq a b iha ihb => exact ⟨iha h.1, ihb h.2⟩
  | alt a b iha ihb => exact ⟨iha h.1, ihb h.2⟩
  | absentIn a b iha ihb => exact ⟨iha h.1, ihb h.2⟩
  | cond t yes no iht ihy ihn => exact ⟨iht h.1, ihy h.2.1, ihn h.2.2⟩
  | many body _ _ _ ih | scope body ih | atomic body ih | ahead _ body ih | behind _ _ body ih
  | absent body ih | absentCut body ih => exact ih h
  | _ => exact h

end Node

/-! ### Look-behinds -/

namespace LookBehind

open Node

/-- A string that ignores case becomes a row of characters, which has no groups either. All other
nodes keep their kind. -/
theorem enters_unfoldLiterals {n : Node} (h : n.Enters G C) : (unfoldLiterals n).Enters G C := by
  induction n with
  | literal cs fold =>
      cases fold with
      | false => exact h
      | true =>
          refine enters_ofSeq.mpr fun m hm => ?_
          obtain ⟨c, _, rfl⟩ := List.mem_map.mp hm
          trivial
  | capture g body ih => exact ⟨h.1, ih h.2⟩
  | seq a b iha ihb => exact ⟨iha h.1, ihb h.2⟩
  | alt a b iha ihb => exact ⟨iha h.1, ihb h.2⟩
  | cond t yes no iht ihy ihn => exact ⟨iht h.1, ihy h.2.1, ihn h.2.2⟩
  | many body _ _ _ ih | scope body ih | atomic body ih => exact ih h
  | _ => exact h

/-- An alternative of a node enters what the node does. A node that is no alternation is its only
alternative. -/
theorem enters_alternatives {n m : Node} (h : n.Enters G C) (hm : m ∈ alternatives n) :
    m.Enters G C := by
  induction n with
  | alt a b _ ih =>
      rcases List.mem_cons.mp hm with rfl | hm
      · exact h.1
      · exact ih h.2 hm
  | _ =>
      obtain rfl := List.mem_singleton.mp hm
      exact h

variable {table : GroupTable} {fuel : Nat} {positive : Bool} {body n : Node}

/-- A look-behind that is always decided in the same way needs no body. -/
theorem enters_decided (positive : Bool) :
    (if positive then Node.empty else Node.never).Enters G C := by
  split <;> trivial

/-- A look-behind with one body is checked for its lengths, and its body is kept or not needed. It
is not needed if it surely can be empty, since that decides the look-behind on its own. -/
theorem enters_single (h : body.Enters G C) (hn : single table fuel positive body = .ok n) :
    n.Enters G C := by
  unfold single at hn
  dsimp only at hn
  split at hn
  · cases hn
  · split at hn
    · cases hn
      exact enters_decided positive
    · cases hn
      exact enters_unfoldLiterals h

/-- A look-behind enters what its body does. If its alternatives have different lengths, there is a
look-behind for each of them. -/
theorem enters_resolve (h : body.Enters G C) (hn : resolve table fuel positive body = .ok n) :
    n.Enters G C := by
  unfold resolve at hn
  dsimp only at hn
  split at hn
  · cases hn
  · split at hn
    · cases hn
    · split at hn
      · cases hn
        exact enters_decided positive
      · split at hn
        · split at hn
          · -- Each alternative becomes a look-behind of its own.
            obtain ⟨parts, hparts, hn⟩ := exists_of_bind_eq_ok hn
            have hall : ∀ m ∈ parts, m.Enters G C := by
              intro m hm
              obtain ⟨part, hpart, hm⟩ := exists_of_mem_mapM hparts hm
              exact enters_single (enters_alternatives h hpart) hm
            cases hn
            split
            · exact enters_ofAlts.mpr hall
            · exact enters_ofSeq.mpr hall
          · exact enters_single h hn
        · exact enters_single h hn

/-- Preparing the look-behinds of a node adds no group and no call. The induction is on the node,
and only look-behinds themselves are changed. -/
theorem enters_prepare (h : body.Enters G C) (hn : prepare table fuel body = .ok n) :
    n.Enters G C := by
  induction body generalizing n with
  | seq a b iha ihb | alt a b iha ihb | absentIn a b iha ihb =>
      obtain ⟨a', ha, hn⟩ := exists_of_bind_eq_ok hn
      obtain ⟨b', hb, hn⟩ := exists_of_bind_eq_ok hn
      cases hn
      exact ⟨iha h.1 ha, ihb h.2 hb⟩
  | cond t yes no iht ihy ihn =>
      obtain ⟨t', ht, hn⟩ := exists_of_bind_eq_ok hn
      obtain ⟨yes', hy, hn⟩ := exists_of_bind_eq_ok hn
      obtain ⟨no', hno, hn⟩ := exists_of_bind_eq_ok hn
      cases hn
      exact ⟨iht h.1 ht, ihy h.2.1 hy, ihn h.2.2 hno⟩
  | capture g body ih =>
      obtain ⟨body', hbody, hn⟩ := exists_of_bind_eq_ok hn
      cases hn
      exact ⟨h.1, ih h.2 hbody⟩
  | many body _ _ _ ih | scope body ih | atomic body ih | ahead _ body ih | absent body ih
  | absentCut body ih =>
      obtain ⟨body', hbody, hn⟩ := exists_of_bind_eq_ok hn
      cases hn
      have hbody' : body'.Enters G C := ih h hbody
      exact hbody'
  | behind positive reach body ih =>
      -- The reach of a look-behind is resolved where it is met.
      unfold prepare at hn
      split at hn
      · cases hn
      · obtain ⟨body', hbody, hn⟩ := exists_of_bind_eq_ok hn
        exact enters_resolve (ih h hbody) hn
  | _ =>
      cases hn
      exact h

end LookBehind

/-! ### Alternatives in groups -/

namespace Node

/-- Alternatives that are groups, each given by its number and its body. The combined pattern of a
language is meant to be of this kind. -/
def ofGroups (alts : List (Nat × Node)) : Node :=
  ofAlts (alts.map fun a => capture a.1 a.2)

/-- The first alternative is a group, and the others are of the same kind. -/
theorem ofGroups_cons (a b : Nat × Node) (alts : List (Nat × Node)) :
    ofGroups (a :: b :: alts) = alt (capture a.1 a.2) (ofGroups (b :: alts)) := rfl

/-- The groups of alternatives come in their order, each before those inside it. -/
theorem numbers_ofGroups (alts : List (Nat × Node)) :
    (ofGroups alts).numbers = alts.flatMap fun a => a.1 :: a.2.numbers := by
  rw [ofGroups, numbers_ofAlts, numbersOf, List.flatMap_map]
  rfl

/-- The same with the bodies of the groups. Each alternative is listed with its body, and behind it
what is captured inside that. -/
theorem captures_ofGroups (alts : List (Nat × Node)) :
    (ofGroups alts).captures = alts.flatMap fun a => a :: a.2.captures := by
  induction alts with
  | nil => rfl
  | cons a alts ih =>
      cases alts with
      | nil => simp [ofGroups, ofAlts, captures]
      | cons b alts =>
          rw [ofGroups_cons, captures, ih, List.flatMap_cons]
          rfl

/-- If the groups of all alternatives are kept, dropping groups changes only what is inside them.
This is so for rules, whose groups have names. -/
theorem dropGroups_ofGroups {keep : Nat → Bool} {alts : List (Nat × Node)}
    (hkeep : ∀ a ∈ alts, keep a.1) :
    (ofGroups alts).dropGroups keep
      = ofGroups (alts.map fun a => (a.1, a.2.dropGroups keep)) := by
  induction alts with
  | nil => rfl
  | cons a alts ih =>
      have ha := hkeep a List.mem_cons_self
      have hfirst : (capture a.1 a.2).dropGroups keep = capture a.1 (a.2.dropGroups keep) :=
        if_pos ha
      cases alts with
      | nil => exact hfirst
      | cons b alts =>
          rw [ofGroups_cons, dropGroups, hfirst, ih fun c hc => hkeep c (List.mem_cons_of_mem a hc)]
          rfl

/-- Calls are resolved in one alternative after another. No call goes away by that, and no group is
changed. -/
theorem resolveCalls_ofGroups (target : Nat → Nat) (alts : List (Nat × Node)) :
    (ofGroups alts).resolveCalls target
      = ofGroups (alts.map fun a => (a.1, a.2.resolveCalls target)) := by
  induction alts with
  | nil => rfl
  | cons a alts ih =>
      cases alts with
      | nil => rfl
      | cons b alts =>
          rw [ofGroups_cons, resolveCalls, ih]
          rfl

end Node

/-- The alternatives of such a node are the groups it was made of, if there are any. Groups are no
alternations themselves, so none is taken apart further. -/
theorem LookBehind.alternatives_ofGroups {alts : List (Nat × Node)} (hne : alts ≠ []) :
    LookBehind.alternatives (Node.ofGroups alts) = alts.map fun a => Node.capture a.1 a.2 := by
  induction alts with
  | nil => exact absurd rfl hne
  | cons a alts ih =>
      cases alts with
      | nil => rfl
      | cons b alts =>
          show Node.capture a.1 a.2 :: LookBehind.alternatives (Node.ofGroups (b :: alts)) = _
          rw [ih (List.cons_ne_nil b alts)]
          rfl

/-- The look-behinds of alternatives are prepared one alternative after another, and the groups keep
their numbers. -/
theorem LookBehind.prepare_ofGroups {table : GroupTable} {fuel : Nat} {alts : List (Nat × Node)}
    {n : Node} (h : prepare table fuel (Node.ofGroups alts) = .ok n) :
    ∃ alts', n = Node.ofGroups alts' ∧
      List.Forall₂ (fun a a' => a'.1 = a.1 ∧ prepare table fuel a.2 = .ok a'.2) alts alts' := by
  induction alts generalizing n with
  | nil =>
      cases h
      exact ⟨[], rfl, .nil⟩
  | cons a alts ih =>
      -- The last group has no alternative behind it.
      cases alts with
      | nil =>
          obtain ⟨body, hbody, h⟩ := exists_of_bind_eq_ok h
          cases h
          exact ⟨[(a.1, body)], rfl, .cons ⟨rfl, hbody⟩ .nil⟩
      | cons b alts =>
          obtain ⟨first, hfirst, h⟩ := exists_of_bind_eq_ok h
          obtain ⟨body, hbody, hfirst⟩ := exists_of_bind_eq_ok hfirst
          obtain ⟨rest, hrest, h⟩ := exists_of_bind_eq_ok h
          cases hfirst
          cases h
          obtain ⟨alts', rfl, hall⟩ := ih hrest
          have hlength := hall.length_eq
          cases alts' with
          | nil => cases hlength
          | cons b' alts' => exact ⟨(a.1, body) :: b' :: alts', rfl, .cons ⟨rfl, hbody⟩ hall⟩

/-! ### Programs -/

namespace Program

/-- What is found in a table after a change was there before, or is what has been put there. A
change that is out of bounds changes nothing. -/
theorem mem_of_setIfInBounds {table : Array (Option Node)} {k g : Nat} {n body : Node}
    (h : ((table.setIfInBounds k (some n))[g]?).join = some body) :
    (table[g]?).join = some body ∨ (g = k ∧ body = n) := by
  rw [Array.getElem?_setIfInBounds] at h
  by_cases hk : k = g
  · rw [if_pos hk] at h
    split at h
    · exact Or.inr ⟨hk.symm, (Option.some.inj h).symm⟩
    · cases h
  · rw [if_neg hk] at h
    exact Or.inl h

/-- The same after a list of changes. What was put there may have been put over by a later
change. -/
theorem mem_of_foldl_setIfInBounds {groups : List (Nat × Node)} {table : Array (Option Node)}
    {g : Nat} {body : Node}
    (h : ((groups.foldl (fun a (g, body) => a.setIfInBounds g (some body)) table)[g]?).join
      = some body) : (table[g]?).join = some body ∨ (g, body) ∈ groups := by
  induction groups generalizing table with
  | nil => exact Or.inl h
  | cons e groups ih =>
      rcases ih h with h | h
      · rcases mem_of_setIfInBounds h with h | ⟨rfl, rfl⟩
        · exact Or.inl h
        · exact Or.inr List.mem_cons_self
      · exact Or.inr (List.mem_cons_of_mem e h)

/-- The body of a group is that of the whole tree, or of a group in it. The table has number 0 for
the whole tree. -/
theorem mem_of_bodies {count g : Nat} {tree body : Node}
    (h : ((bodies count tree)[g]?).join = some body) :
    (g = 0 ∧ body = tree) ∨ (g, body) ∈ tree.captures := by
  rcases mem_of_foldl_setIfInBounds h with h | h
  · rcases mem_of_setIfInBounds h with h | h
    · -- At first, no group has a body.
      simp [Array.getElem?_replicate] at h
      split at h <;> simp at h
    · exact Or.inl h
  · exact Or.inr h

/-- What is known of a program that has been made from a pattern: its calls have been resolved, its
look-behinds prepared, and its groups and names are those of the tree. -/
theorem ofSyntax_eq_ok {s : Syntax} {p : Program} (h : ofSyntax s = .ok p) :
    ∃ targets table fuel,
      s.calls.mapM (fun c => callTarget s.groups c.1 c.2) = .ok targets ∧
      LookBehind.prepare table fuel (resolved s targets) = .ok p.body ∧
      p.groups = bodies s.groups.count p.body ∧ p.names = s.groups.names := by
  unfold ofSyntax at h
  dsimp only at h
  split at h
  · cases h
  · split at h
    · cases h
    · -- What is left are the steps that compile: the calls, the tree, and the look-behinds in it.
      obtain ⟨targets, htargets, h⟩ := exists_of_bind_eq_ok h
      unfold ofTree at h
      dsimp only at h
      split at h
      · cases h
      · obtain ⟨tree, htree, h⟩ := exists_of_bind_eq_ok h
        cases h
        exact ⟨targets, _, _, htargets, htree, rfl, rfl⟩

end Program

end Highlight.Regex
