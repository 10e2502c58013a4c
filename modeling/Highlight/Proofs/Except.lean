import Mathlib.Data.List.Forall2

/-!
# `Highlight.Proofs.Except`: results of steps that can fail

Where a result has been reached, each of the steps on the way has one: `exists_of_bind_eq_ok` for
two steps, `forall₂_of_mapM_eq_ok` for a list of them. Where a list of steps has failed, it is the
first failure that counts (`mapM_eq_error_iff`). A loop that only looks for failures fails as the
list of its steps does (`forIn_discard`). The way on from a first step whose errors are renamed is
`mapError_ok_bind` or `mapError_error_bind`.
-/

set_option autoImplicit false

namespace Highlight

variable {ε α β : Type}

/-- What is no error has a value. It turns a test that computes into the statement that a step
succeeds. -/
theorem exists_of_isOk {x : Except ε α} (h : x.isOk) : ∃ a, x = .ok a := by
  cases x with
  | error e => cases h
  | ok a => exact ⟨a, rfl⟩

/-- Renaming errors does not stop a step that has succeeded. -/
theorem mapError_ok_bind {ε' : Type} (f : ε → ε') (a : α) (k : α → Except ε' β) :
    (Except.mapError f (.ok a) >>= k) = k a := rfl

/-- An error of a first step is renamed, and the second step is not taken. -/
theorem mapError_error_bind {ε' : Type} (f : ε → ε') (e : ε) (k : α → Except ε' β) :
    (Except.mapError f (.error e) >>= k) = .error (f e) := rfl

/-- A bind ends well only if both its parts do. It takes the passes of a computation apart, from the
first to the last. -/
theorem exists_of_bind_eq_ok {x : Except ε α} {k : α → Except ε β} {b : β}
    (h : x >>= k = .ok b) : ∃ a, x = .ok a ∧ k a = .ok b := by
  cases x with
  | error e => cases h
  | ok a => exact ⟨a, rfl, h⟩

/-- A bind fails as its first part does, or as the second does on what the first gives. -/
theorem bind_eq_error_iff {x : Except ε α} {k : α → Except ε β} {e : ε} :
    x >>= k = .error e ↔ x = .error e ∨ ∃ a, x = .ok a ∧ k a = .error e := by
  cases x with
  | error e' => simp [bind, Except.bind]
  | ok a => simp [bind, Except.bind]

/-- The results of a list of steps, one by one: each is that of the step at its place. The induction
is on the list, one bind for the first step and one for the others. -/
theorem forall₂_of_mapM_eq_ok {f : α → Except ε β} {xs : List α} {ys : List β}
    (h : xs.mapM f = .ok ys) : List.Forall₂ (fun x y => f x = .ok y) xs ys := by
  induction xs generalizing ys with
  | nil =>
      cases h
      exact .nil
  | cons x xs ih =>
      rw [List.mapM_cons] at h
      obtain ⟨y, hy, h⟩ := exists_of_bind_eq_ok h
      obtain ⟨zs, hzs, h⟩ := exists_of_bind_eq_ok h
      cases h
      exact .cons hy (ih hzs)

/-- A list of steps has results if and only if each step has one, and they are these. It is the form
in which the passes of a compilation are taken apart and put together. -/
theorem mapM_eq_ok_iff {f : α → Except ε β} {xs : List α} {ys : List β} :
    xs.mapM f = .ok ys ↔ List.Forall₂ (fun x y => f x = .ok y) xs ys := by
  refine ⟨forall₂_of_mapM_eq_ok, fun h => ?_⟩
  induction h with
  | nil => rfl
  | cons hxy _ ih =>
      rw [List.mapM_cons, hxy, ih]
      rfl

/-- An element of the first of two related lists is related to that at the same index of the
second. -/
theorem getElem?_of_forall₂ {r : α → β → Prop} {xs : List α} {ys : List β}
    (h : List.Forall₂ r xs ys) {i : Nat} {x : α} (hx : xs[i]? = some x) :
    ∃ y, ys[i]? = some y ∧ r x y := by
  induction h generalizing i with
  | nil => cases hx
  | cons hxy _ ih =>
      cases i with
      | zero =>
          cases hx
          exact ⟨_, rfl, hxy⟩
      | succ i => exact ih hx

/-- The result of the step at an index is at the same index among the results. -/
theorem getElem?_of_mapM_eq_ok {f : α → Except ε β} {xs : List α} {ys : List β}
    (h : xs.mapM f = .ok ys) {i : Nat} {x : α} (hx : xs[i]? = some x) :
    ∃ y, ys[i]? = some y ∧ f x = .ok y :=
  getElem?_of_forall₂ (forall₂_of_mapM_eq_ok h) hx

/-- An element of the second of two related lists is related to one of the first. It leads from
something compiled back to the rule that it was compiled from. -/
theorem exists_of_forall₂ {r : α → β → Prop} {xs : List α} {ys : List β}
    (h : List.Forall₂ r xs ys) {y : β} (hy : y ∈ ys) : ∃ x ∈ xs, r x y := by
  induction h with
  | nil => exact absurd hy List.not_mem_nil
  | cons hxy _ ih =>
      rcases List.mem_cons.mp hy with rfl | hy
      · exact ⟨_, List.mem_cons_self, hxy⟩
      · obtain ⟨x, hx, hr⟩ := ih hy
        exact ⟨x, List.mem_cons_of_mem _ hx, hr⟩

/-- A result of a list of steps is that of one of them. -/
theorem exists_of_mem_mapM {f : α → Except ε β} {xs : List α} {ys : List β}
    (h : xs.mapM f = .ok ys) {y : β} (hy : y ∈ ys) : ∃ x ∈ xs, f x = .ok y :=
  exists_of_forall₂ (forall₂_of_mapM_eq_ok h) hy

/-- The error of a list of steps is that of the first one that fails. The steps before it succeed,
and those after it do not matter. -/
theorem mapM_eq_error_iff {f : α → Except ε β} {xs : List α} {e : ε} :
    xs.mapM f = .error e ↔ ∃ (i : Nat) (x : α), xs[i]? = some x ∧ f x = .error e ∧
      ∀ j < i, ∀ y, xs[j]? = some y → ∃ b, f y = .ok b := by
  induction xs with
  | nil => simp [pure, Except.pure]
  | cons x xs ih =>
      rw [List.mapM_cons]
      -- By induction on the list, whose first step is the first one that fails or comes before it.
      cases hx : f x with
      | error e' =>
          constructor
          · intro h
            cases h
            exact ⟨0, x, rfl, hx, fun j hj => absurd hj (Nat.not_lt_zero j)⟩
          · rintro ⟨i, y, hi, hy, hfirst⟩
            cases i with
            | zero =>
                cases hi
                cases hx.symm.trans hy
                rfl
            | succ i =>
                obtain ⟨b, hb⟩ := hfirst 0 (Nat.succ_pos i) x rfl
                cases hx.symm.trans hb
      | ok b =>
          -- A first step that succeeds does not change how the rest fails.
          have hstep : (do
              let b ← Except.ok b
              let bs ← xs.mapM f
              pure (b :: bs)) = Except.error e ↔ xs.mapM f = .error e := by
            cases xs.mapM f with
            | error e' => exact Iff.rfl
            | ok bs => constructor <;> intro h <;> cases h
          rw [hstep, ih]
          constructor
          · rintro ⟨i, y, hi, hy, hfirst⟩
            refine ⟨i + 1, y, hi, hy, ?_⟩
            intro j hj z hz
            cases j with
            | zero =>
                cases hz
                exact ⟨b, hx⟩
            | succ j => exact hfirst j (Nat.lt_of_succ_lt_succ hj) z hz
          · rintro ⟨i, y, hi, hy, hfirst⟩
            cases i with
            | zero =>
                cases hi
                cases hx.symm.trans hy
            | succ i => exact ⟨i, y, hi, hy, fun j hj => hfirst (j + 1) (Nat.succ_lt_succ hj)⟩

/-- A loop that does not look at the results of its steps fails as the list of the steps does. So a
pass that was written as a loop has the properties of a list of steps. -/
theorem forIn_discard (f : α → Except ε β) (xs : List α) :
    (forIn xs PUnit.unit fun x _ => do
        discard (f x)
        pure (.yield PUnit.unit)) = (discard (xs.mapM f) : Except ε PUnit) := by
  induction xs with
  | nil => rfl
  | cons x xs ih =>
      rw [List.forIn_cons, List.mapM_cons]
      -- The loop and the list stop at the same element, if they stop at all.
      cases hx : f x with
      | error e => rfl
      | ok b =>
          show (forIn xs PUnit.unit fun x _ => do
            discard (f x)
            pure (.yield PUnit.unit)) = _
          rw [ih]
          cases xs.mapM f <;> rfl

end Highlight
