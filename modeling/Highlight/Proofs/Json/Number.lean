import Highlight.Proofs.Json.Reader

/-!
# `Highlight.Proofs.Json.Number`: lengths come back from their digits

`number_digits` is the main statement. The decimal digits of a number that fits into 64 bits are
read as that number, if no digit, point or exponent follows.
-/

set_option autoImplicit false

namespace Highlight.Json

open Highlight.Json.Symbol

/-- A digit is read as it is written. There are only ten of them, so it is decided. -/
theorem digit?_digitChar : ∀ d < 10, digit? (some (some (Nat.digitChar d))) = some d := by
  decide

/-- What counts as a digit has the value of its distance from `0`. -/
theorem digit?_of_isDigit {c : Char} (hc : c.isDigit = true) :
    digit? (some (some c)) = some (c.toNat - '0'.toNat) := by
  rw [digit?, if_pos hc]

/-- The digits of a number but 0 do not begin with 0. It matters since a reader takes a leading 0
for the whole number. -/
theorem toDigits_eq_cons {n : Nat} (h : 0 < n) :
    ∃ d ds, Nat.toDigits 10 n = Nat.digitChar d :: ds ∧ 0 < d ∧ d < 10 := by
  -- The digits are made from the last one, so the induction goes to the number without it.
  induction n using Nat.strongRecOn with
  | ind n ih =>
      rw [Nat.toDigits_eq_if (by decide)]
      split
      · rename_i hlt
        exact ⟨n, [], rfl, h, hlt⟩
      · obtain ⟨d, ds, hdigits, hd⟩ := ih (n / 10) (by omega) (by omega)
        exact ⟨d, ds ++ [Nat.digitChar (n % 10)], by rw [hdigits]; rfl, hd⟩

/-- More digits do not make a number smaller. So if all digits of a number keep to a limit, each of
its beginnings does. -/
theorem le_ofDigitChars (ds : List Char) (n : Nat) : n ≤ Nat.ofDigitChars 10 ds n := by
  induction ds generalizing n with
  | nil => exact Nat.le_refl n
  | cons c ds ih =>
      rw [Nat.ofDigitChars_cons]
      have h := ih (10 * n + (c.toNat - '0'.toNat))
      omega

namespace Reader

variable {rest : List Symbol}

/-- Where no digit follows, the number is what it was. It has not been cut short, so nothing is said
to have passed the limit. -/
theorem digitsWithin_none {limit fuel n k : Nat} (h : digit? rest.head? = none) :
    digitsWithin limit fuel n k rest = .ok ((n, k, false), rest) := by
  cases fuel with
  | zero => rfl
  | succ fuel =>
      rw [digitsWithin, bind_of_ok (peek_eq rest)]
      simp only [h]
      rfl

/-- A digit is taken if the number keeps to the limit with it. So the fuel goes down by one, and the
count of digits up by one. -/
theorem digitsWithin_cons {limit fuel n k d : Nat} {c : Char}
    (hc : digit? (some (some c)) = some d) (hlimit : n * 10 + d ≤ limit) :
    digitsWithin limit (fuel + 1) n k (some c :: rest)
      = digitsWithin limit fuel (n * 10 + d) (k + 1) rest := by
  rw [digitsWithin, bind_of_ok (peek_eq _)]
  simp only [List.head?_cons, hc]
  rw [if_neg (Nat.not_lt.mpr hlimit)]
  exact bind_of_ok (skip_cons _ _)

/-- Digits are taken as long as the number that they make up keeps to the limit. Here it does so
with all of them, and the reader stops since no digit follows. -/
theorem digitsWithin_digits {limit : Nat} (hrest : digit? rest.head? = none) (ds : List Char)
    (hds : ∀ c ∈ ds, c.isDigit = true) (fuel : Nat) (hfuel : ds.length ≤ fuel) (n k : Nat)
    (hlimit : Nat.ofDigitChars 10 ds n ≤ limit) :
    digitsWithin limit fuel n k (ofChars ds ++ rest)
      = .ok ((Nat.ofDigitChars 10 ds n, k + ds.length, false), rest) := by
  -- The number so far grows with each digit, so the statement is about any number to begin with.
  induction ds generalizing fuel n k with
  | nil => exact digitsWithin_none hrest
  | cons c ds ih =>
      obtain ⟨fuel, rfl⟩ : ∃ m, fuel = m + 1 := Nat.exists_eq_add_one.mpr (by
        rw [List.length_cons] at hfuel
        omega)
      have hc := digit?_of_isDigit (hds c List.mem_cons_self)
      rw [Nat.ofDigitChars_cons, Nat.mul_comm] at hlimit ⊢
      have hle := Nat.le_trans (le_ofDigitChars ds _) hlimit
      rw [ofChars_cons, List.cons_append, digitsWithin_cons hc hle,
        ih (fun d hd => hds d (List.mem_cons_of_mem c hd)) fuel (Nat.le_of_succ_le_succ hfuel) _ _
          hlimit,
        List.length_cons]
      simp [Nat.add_comm, Nat.add_left_comm]

/-- A natural number ends where nothing goes on with it: neither a fraction nor an exponent
follows. -/
theorem afterDigits_delimited (h : Delimited rest) (positive : Bool) (n : Nat) :
    afterDigits positive n rest = .ok (.ofDigits positive n, rest) := by
  unfold afterDigits
  rw [bind_of_ok (peek_eq rest), if_neg h.point, if_neg (by simp [h.exponent])]
  rfl

/-- The digits of a number that fits into 64 bits are taken as a word. None of them is left, and
none would pass the limit. -/
theorem wordDigits_toDigits {n : Nat} (hn : n ≤ greatestWord) (h : Delimited rest) :
    wordDigits 0 (ofChars (Nat.toDigits 10 n) ++ rest)
      = .ok ((n, (Nat.toDigits 10 n).length, false), rest) := by
  have hnumber : Nat.ofDigitChars 10 (Nat.toDigits 10 n) 0 = n :=
    Nat.ofDigitChars_toDigits (by decide) (by decide)
  have hdigits := digitsWithin_digits h.digit (Nat.toDigits 10 n)
    (fun c hc => Nat.isDigit_of_mem_toDigits (by decide) (by decide) hc)
    (ofChars (Nat.toDigits 10 n) ++ rest).length (by simp [ofChars]) 0 0 (hnumber.symm ▸ hn)
  rw [hnumber, Nat.zero_add] at hdigits
  exact hdigits

/-- A number that fits into 64 bits is read as it is written. What follows has to delimit it, since
it could go on as a fraction or with an exponent. -/
theorem number_digits {n : Nat} (hn : n ≤ greatestWord) (h : Delimited rest) :
    number (ofChars (Nat.toDigits 10 n) ++ rest) = .ok (.integer n, rest) := by
  unfold number
  rw [bind_of_ok (peek_eq _)]
  -- The number 0 has a branch of its own in the reader, since no digit may follow a leading 0.
  rcases Nat.eq_zero_or_pos n with rfl | hpos
  · show unsigned true (some '0' :: rest) = _
    unfold unsigned
    rw [bind_of_ok (peek_eq _)]
    show (skip >>= _) _ = _
    rw [bind_of_ok (skip_cons _ _), bind_of_ok (peek_eq _), if_neg (by simp [h.digit])]
    exact afterDigits_delimited h true 0
  · obtain ⟨d, ds, hdigits, hd, hlt⟩ := toDigits_eq_cons hpos
    have hword := wordDigits_toDigits hn h
    have hfirst := digit?_digitChar d hlt
    have hminus : some (some (Nat.digitChar d)) ≠ some (some '-') := by
      intro heq
      rw [heq] at hfirst
      cases hfirst
    rw [hdigits, ofChars_cons, List.cons_append] at hword ⊢
    rw [List.head?_cons, if_neg hminus, unsigned, bind_of_ok (peek_eq _)]
    obtain ⟨d, rfl⟩ := Nat.exists_eq_add_one.mpr hd
    simp only [List.head?_cons, hfirst]
    rw [bind_of_ok hword]
    exact afterDigits_delimited h true n

end Reader

end Highlight.Json
