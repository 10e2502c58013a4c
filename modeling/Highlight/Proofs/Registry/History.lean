import Highlight.Proofs.Registry.Memo
import Mathlib.Data.List.Induction

/-!
# `Highlight.Proofs.Registry.History`: what has happened since

A registry is what the operations on it have made of it, and much of what it promises is about the
course they took: a name was given away, and the language that has it now was not replaced since.
`Registry.Since` is the form of all such statements. An operation of one kind is among those that
were carried out, and none of another kind came after it.

`Registry.since_concat` is the only fact about it that proofs need. What has happened since is
known after each operation if it was known before. So a statement of this form follows by
induction on the operations, the last one first.
-/

set_option autoImplicit false

namespace Highlight.Registry

/-- The last operation is carried out on what the others have made of the registry. -/
theorem afterAll_concat (ops : List Operation) (op : Operation) :
    afterAll (ops ++ [op]) = (afterAll ops).after op := by
  rw [afterAll, List.foldl_append]
  rfl

/-- In the course of operations, there was an `event`, and no `stop` since. Both are told from the
operation and the registry that it was carried out on, so the same operation may be an event at one
time and none at another. -/
def Since (event stop : Registry → Operation → Prop) (ops : List Operation) : Prop :=
  ∃ before op later, ops = before ++ op :: later ∧ event (afterAll before) op ∧
    ∀ between op' rest, later = between ++ op' :: rest →
      ¬ stop (afterAll (before ++ op :: between)) op'

variable {event stop : Registry → Operation → Prop}

/-- Before the first operation nothing has happened. -/
theorem not_since_nil : ¬ Since event stop [] := by
  rintro ⟨before, op, later, heq, _⟩
  simp at heq

/-- A place in a list that grows by one element is the new one, or was there before. It is used for
operations that are carried out one after another. -/
theorem concat_eq_split {α : Type} {xs before later : List α} {x first : α} :
    xs ++ [x] = before ++ first :: later ↔
      (before = xs ∧ first = x ∧ later = []) ∨
      ∃ rest, later = rest ++ [x] ∧ xs = before ++ first :: rest := by
  constructor
  · intro h
    -- `x` is the last element of both sides, and on the right that is `first`, or the last of
    -- `later`.
    rcases List.eq_nil_or_concat later with rfl | ⟨rest, last, rfl⟩
    · obtain ⟨rfl, hx⟩ := List.append_inj' h rfl
      exact Or.inl ⟨rfl, (List.singleton_inj.mp hx).symm, rfl⟩
    · have hsplit : xs ++ [x] = (before ++ first :: rest) ++ [last] := by
        rw [h]
        simp
      obtain ⟨rfl, hx⟩ := List.append_inj' hsplit rfl
      obtain rfl := List.singleton_inj.mp hx
      exact Or.inr ⟨rest, List.concat_eq_append, rfl⟩
  · rintro (⟨rfl, rfl, rfl⟩ | ⟨rest, rfl, rfl⟩)
    · rfl
    · simp

/-- The event is the last operation, or it was before that, which does not stop it. So what has
happened since can be followed step by step. -/
theorem since_concat (event stop : Registry → Operation → Prop) (ops : List Operation)
    (op : Operation) :
    Since event stop (ops ++ [op]) ↔
      event (afterAll ops) op ∨ (Since event stop ops ∧ ¬ stop (afterAll ops) op) := by
  constructor
  · rintro ⟨before, first, later, heq, hevent, hlater⟩
    rcases concat_eq_split.mp heq with ⟨rfl, rfl, rfl⟩ | ⟨later, rfl, rfl⟩
    · exact Or.inl hevent
    · -- The event is older than the last operation, and that operation is one of those that must
      -- not stop it.
      refine Or.inr ⟨⟨before, first, later, rfl, hevent, ?_⟩, hlater later op [] rfl⟩
      rintro between op' rest rfl
      exact hlater between op' (rest ++ [op]) (by simp)
  · rintro (hevent | ⟨⟨before, first, later, rfl, hevent, hlater⟩, hnot⟩)
    · exact ⟨ops, op, [], rfl, hevent, fun between op' rest h => by simp at h⟩
    · refine ⟨before, first, later ++ [op], by simp, hevent, fun between op' rest heq => ?_⟩
      rcases concat_eq_split.mp heq with ⟨rfl, rfl, rfl⟩ | ⟨rest, rfl, rfl⟩
      · exact hnot
      · exact hlater between op' rest rfl

end Highlight.Registry
