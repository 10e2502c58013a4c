import Highlight.Proofs.Regex.Situation

/-!
# `Highlight.Proofs.Regex.Search`: the leftmost match

A search tries one position after another. `search_found` and `search_missing` say what its
result tells of the attempts: a match is that of the first position where an attempt matches, and
without a match no attempt matches up to the end of the text.

`search_bounds` says where a match lies. Its start is that of the attempt unless the pattern
moves it (`Node.keep`), possibly to a position before the one where the search began. Its end is
never before the attempt.
-/

set_option autoImplicit false

namespace Highlight.Regex

/-- The attempt has come to an end without a match: it has failed, or the pattern has given it up.
For a search the two are the same. -/
def Outcome.Missed (o : Outcome) : Prop := o = .failed ∨ o = .abandoned

namespace Program

variable {p : Program} {text : Array Char} {start : Nat}

/-- What a search over `n` positions from `i` on has found. It stops at the first attempt that
matches. -/
private theorem searchFrom_found {n i : Nat} {m : Match}
    (h : p.searchFrom text start n i = .found m) :
    ∃ at', i ≤ at' ∧ at' < i + n ∧
      (∃ st, p.attempt text start at' = .matched st ∧ m = .ofState st) ∧
      ∀ j, i ≤ j → j < at' → (p.attempt text start j).Missed := by
  induction n generalizing i with
  | zero => cases h
  | succ n ih =>
      unfold searchFrom at h
      split at h
      · rename_i st hst
        cases h
        exact ⟨i, Nat.le_refl i, by omega, ⟨st, hst, rfl⟩, fun j hij hji => by omega⟩
      · cases h
      · -- This attempt has not matched, and the search goes on at the next position.
        rename_i hnot hfuel
        obtain ⟨at', hle, hlt, hmatch, hmissed⟩ := ih h
        refine ⟨at', by omega, by omega, hmatch, fun j hij hja => ?_⟩
        rcases Nat.eq_or_lt_of_le hij with rfl | hij
        · cases ho : p.attempt text start i with
          | matched st => exact absurd ho (hnot st)
          | exhausted => exact absurd ho hfuel
          | failed => exact Or.inl rfl
          | abandoned => exact Or.inr rfl
        · exact hmissed j hij hja

/-- A search over `n` positions from `i` on without a match has tried all of them. An attempt
without a match has failed or been given up. -/
private theorem searchFrom_missing {n i : Nat} (h : p.searchFrom text start n i = .missing) :
    ∀ j, i ≤ j → j < i + n → (p.attempt text start j).Missed := by
  induction n generalizing i with
  | zero => exact fun j hij hji => by omega
  | succ n ih =>
      unfold searchFrom at h
      split at h
      · cases h
      · cases h
      · rename_i hnot hfuel
        intro j hij hji
        -- The position of this attempt, or a later one.
        rcases Nat.eq_or_lt_of_le hij with rfl | hij
        · cases ho : p.attempt text start i with
          | matched st => exact absurd ho (hnot st)
          | exhausted => exact absurd ho hfuel
          | failed => exact Or.inl rfl
          | abandoned => exact Or.inr rfl
        · exact ih h j hij (by omega)

/-- A match is that of the first position, not before the start of the search, where an attempt
matches. The attempts before it have come to an end. -/
theorem search_found {m : Match} (h : p.search text start = .found m) :
    ∃ at', start ≤ at' ∧ at' ≤ text.size ∧
      (∃ st, p.attempt text start at' = .matched st ∧ m = .ofState st) ∧
      ∀ j, start ≤ j → j < at' → (p.attempt text start j).Missed := by
  obtain ⟨at', hle, hlt, hmatch, hmissed⟩ := searchFrom_found h
  exact ⟨at', hle, by omega, hmatch, hmissed⟩

/-- Without a match, no attempt matches up to the end of the text, which is a position as well. -/
theorem search_missing (h : p.search text start = .missing) :
    ∀ j, start ≤ j → j ≤ text.size → (p.attempt text start j).Missed :=
  fun j hle hj => searchFrom_missing h j hle (by omega)

/-- If no attempt matches and none takes too long, there is no match. The other way round is
`searchFrom_missing`. -/
theorem search_eq_missing (h : ∀ i, (p.attempt text start i).Missed) :
    p.search text start = .missing := by
  have hfrom : ∀ n i, p.searchFrom text start n i = .missing := by
    intro n
    induction n with
    | zero => exact fun _ => rfl
    | succ n ih =>
        intro i
        unfold searchFrom
        rcases h i with hi | hi <;> rw [hi] <;> exact ih (i + 1)
  exact hfrom _ start

/-- An attempt begins in a situation: at its position, with the whole text before it, and nothing
recorded. -/
theorem initialState_sound {A : Nat → Prop} {least i : Nat} (hle : least ≤ i)
    (hi : i ≤ text.size) : (initialState text i).Sound text.size A least [] :=
  ⟨hle, hi, Nat.le_refl _, fun _ he => absurd he List.not_mem_nil, List.nil_suffix⟩

/-- An attempt keeps the invariant of situations. The least position is where it begins, so its
match does not end before that. -/
theorem attempt_sound {A : Nat → Prop} {i : Nat} {st : State}
    (hclosed : Setting.Closed ⟨p, text, start⟩ A) (hbody : p.body.Within A) (hi : i ≤ text.size)
    (h : p.attempt text start i = .matched st) : st.Sound text.size A i [] := by
  have hstart : (initialState text i).Sound text.size A i [] :=
    initialState_sound (Nat.le_refl i) hi
  exact Setting.run_sound hclosed attemptFuel i [] [.node p.body] (initialState text i) [] st
    ⟨Setting.frames_one (Setting.node_sound hbody), hstart⟩
    (fun c hc => absurd hc List.not_mem_nil) h

/-- A match ends inside the text, not before it begins, and not before the search did. -/
theorem search_bounds {m : Match} (h : p.search text start = .found m) :
    m.start ≤ m.stop ∧ start ≤ m.stop ∧ m.stop ≤ text.size := by
  obtain ⟨at', hle, hsize, ⟨st, hst, rfl⟩, _⟩ := search_found h
  have hsound := attempt_sound (Setting.closed_true _) p.body.within_true hsize hst
  exact ⟨Nat.min_le_right _ _, Nat.le_trans hle hsound.least_le, hsound.pos_le⟩

end Program

end Highlight.Regex
