import Highlight.Proofs.Json.String
import Highlight.Text.Quoted
import Mathlib.Data.List.Chain

/-!
# `Highlight.Proofs.Text.Quoted`: quoted text is read back

`quoted` writes a text in one line between quotes. Two things are shown of it. There is no line feed
in it (`newline_not_mem_quoted`). And the text can be read back from a line that ends in it,
whatever stands before it in the line: `quotedAtEnd?_append` is the main statement.

Such a line is read from its end, since what stands before the quoted text may have quotes of its
own. The opening quote is the nearest one without a backslash before it. That finds it because the
text between the quotes is `Guarded`: each quote in it comes right after a backslash, also where a
backslash of the text itself is escaped.

`unescapeFrom` reads escapes character by character. `unescapeFrom_escaped` is the step for one
character of the text. What is written about a character depends on tables of those that have a
glyph, but `escaped_cases` is all that has to be known: it is a letter after a backslash, or a code
point in braces, or the character itself.
-/

set_option autoImplicit false

namespace Highlight.Text

open Highlight.Json (hexDigit?)

/-! ### Reading escapes -/

/-- The character of an escape of two characters, without the backslash. There is no escape for a
single quote, which needs none between double quotes. -/
def simpleEscape? : Char → Option Char
  | '0' => some '\x00'
  | 't' => some '\t'
  | 'r' => some '\r'
  | 'n' => some '\n'
  | '\\' => some '\\'
  | '"' => some '"'
  | _ => none

/-- How far an escape has been read. The reader goes through the text once, character by
character. -/
inductive Progress where
  /-- No escape has begun -/
  | plain
  /-- After the backslash -/
  | escape
  /-- After the `u` -/
  | code
  /-- Between braces, after digits that make up a number -/
  | digits (n : Nat)
  deriving DecidableEq, Repr

/-- Reads what stands between quotes. A quote without a backslash and an escape that is not complete
are rejected. -/
def unescapeFrom : Progress → List Char → Option (List Char)
  | .plain, [] => some []
  | .plain, c :: cs =>
    if c = '\\' then unescapeFrom .escape cs
    else if c = '"' then none
    else (unescapeFrom .plain cs).map (c :: ·)
  | .escape, c :: cs =>
    if c = 'u' then unescapeFrom .code cs
    else do
      let d ← simpleEscape? c
      (unescapeFrom .plain cs).map (d :: ·)
  | .code, c :: cs => if c = '\x7b' then unescapeFrom (.digits 0) cs else none
  | .digits n, c :: cs =>
    if c = '\x7d' then (unescapeFrom .plain cs).map (Char.ofNat n :: ·)
    else do unescapeFrom (.digits (n * 16 + (← hexDigit? c))) cs
  | _, [] => none

/-- No hexadecimal digit is the closing brace. -/
theorem digitChar_ne_brace : ∀ d < 16, Nat.digitChar d ≠ '\x7d' := by
  decide

/-- A digit is read, and the number grows by it. -/
theorem unescapeFrom_digitChar {d : Nat} (h : d < 16) (n : Nat) (cs : List Char) :
    unescapeFrom (.digits n) (Nat.digitChar d :: cs) = unescapeFrom (.digits (n * 16 + d)) cs := by
  rw [unescapeFrom, if_neg (digitChar_ne_brace d h), Json.hexDigit?_digitChar d h]
  rfl

/-- All digits of a number are read, the last one last. The induction is that of the digits, from
the number to its quotient. -/
theorem unescapeFrom_toDigits (n : Nat) (cs : List Char) :
    unescapeFrom (.digits 0) (Nat.toDigits 16 n ++ cs) = unescapeFrom (.digits n) cs := by
  induction n using Nat.strongRecOn generalizing cs with
  | ind n ih =>
      rw [Nat.toDigits_eq_if (by decide)]
      split
      · rename_i hlt
        rw [List.singleton_append, unescapeFrom_digitChar hlt, Nat.zero_mul, Nat.zero_add]
      · -- The last digit stands behind those of the quotient, and is read after them.
        rename_i hge
        have hdiv : n / 16 < n := Nat.div_lt_self (by omega) (by decide)
        rw [List.append_assoc, ih _ hdiv, List.singleton_append,
          unescapeFrom_digitChar (Nat.mod_lt n (by decide)), Nat.mul_comm, Nat.div_add_mod]

/-- A code point in braces is read as its character. -/
theorem unescapeFrom_codePointEscape (c : Char) (cs : List Char) :
    unescapeFrom .plain (codePointEscape c ++ cs) = (unescapeFrom .plain cs).map (c :: ·) := by
  have hopen : codePointEscape c ++ cs
      = '\\' :: 'u' :: '\x7b' :: (Nat.toDigits 16 c.toNat ++ '\x7d' :: cs) := by
    simp [codePointEscape]
  rw [hopen, unescapeFrom, if_pos rfl, unescapeFrom, if_pos rfl, unescapeFrom, if_pos rfl,
    unescapeFrom_toDigits, unescapeFrom, if_pos rfl, Char.ofNat_toNat]

/-- A character is escaped by a letter, or by its code point, or stands for itself. Nothing else of
the escapes is used below. -/
theorem escaped_cases (c : Char) :
    (∃ d, escaped c = ['\\', d] ∧ simpleEscape? d = some c) ∨ escaped c = codePointEscape c ∨
      (escaped c = [c] ∧ c ≠ '\\' ∧ c ≠ '"' ∧ c ≠ '\n') := by
  unfold escaped
  by_cases hnull : c = '\x00'
  · exact Or.inl ⟨'0', by simp [hnull], by rw [hnull]; rfl⟩
  by_cases htab : c = '\t'
  · exact Or.inl ⟨'t', by simp [htab], by rw [htab]; rfl⟩
  by_cases hreturn : c = '\r'
  · exact Or.inl ⟨'r', by simp [hreturn], by rw [hreturn]; rfl⟩
  by_cases hline : c = '\n'
  · exact Or.inl ⟨'n', by simp [hline], by rw [hline]; rfl⟩
  by_cases hback : c = '\\'
  · exact Or.inl ⟨'\\', by simp [hback], by rw [hback]; rfl⟩
  by_cases hquote : c = '"'
  · exact Or.inl ⟨'"', by simp [hquote], by rw [hquote]; rfl⟩
  simp only [hnull, htab, hreturn, hline, hback, hquote, if_false]
  -- Of the other characters, the tables decide which stand for themselves.
  split
  · exact Or.inr (Or.inr ⟨rfl, hback, hquote, hline⟩)
  · split
    · exact Or.inr (Or.inl rfl)
    · exact Or.inr (Or.inr ⟨rfl, hback, hquote, hline⟩)

/-- A character is read as it is escaped, and the rest is read on. There is a case for an escape by
one letter, one for a code point in braces, and one for no escape. -/
theorem unescapeFrom_escaped (c : Char) (cs : List Char) :
    unescapeFrom .plain (escaped c ++ cs) = (unescapeFrom .plain cs).map (c :: ·) := by
  rcases escaped_cases c with ⟨d, hescape, hd⟩ | hescape | ⟨hescape, hback, hquote, _⟩
  · have hcode : d ≠ 'u' := by
      rintro rfl
      cases hd
    rw [hescape, List.cons_append, List.singleton_append, unescapeFrom, if_pos rfl, unescapeFrom,
      if_neg hcode, hd]
    rfl
  · rw [hescape, unescapeFrom_codePointEscape]
  · rw [hescape, List.singleton_append, unescapeFrom, if_neg hback, if_neg hquote]

/-- A text is read as it is escaped, character by character. -/
theorem unescapeFrom_flatMap (cs : List Char) :
    unescapeFrom .plain (cs.flatMap escaped) = some cs := by
  induction cs with
  | nil => rfl
  | cons c cs ih =>
      rw [List.flatMap_cons, unescapeFrom_escaped, ih]
      rfl

/-! ### Characters between quotes -/

/-- Each quote has a backslash before it. So going back from the end, no quote of the text is taken
for the opening one. -/
structure Guarded (cs : List Char) : Prop where
  head : cs.head? ≠ some '"'
  chain : cs.IsChain fun a b => b = '"' → a = '\\'

/-- Two such texts, one after the other, make one. The second does not begin with a quote, so it
does not matter what the first one ends with. -/
theorem guarded_append {cs ds : List Char} (hcs : Guarded cs) (hds : Guarded ds) :
    Guarded (cs ++ ds) where
  head := by
    cases cs with
    | nil => exact hds.head
    | cons c cs => exact hcs.head
  chain := List.isChain_append.mpr
    ⟨hcs.chain, hds.chain, fun a _ b hb hquote => absurd (hquote ▸ hb) hds.head⟩

/-- A text without quotes is of this kind. -/
theorem guarded_of_not_mem {cs : List Char} (h : '"' ∉ cs) : Guarded cs where
  head hhead := h (List.mem_of_head? hhead)
  chain := by
    refine List.Pairwise.isChain (List.pairwise_of_forall_mem_list fun a _ b hb hquote => ?_)
    exact absurd (hquote ▸ hb) h

/-- The digits of a number are digits one by one. They are taken from the number by division, so the
induction is a strong one. -/
theorem exists_of_mem_toDigits (n : Nat) :
    ∀ c ∈ Nat.toDigits 16 n, ∃ d < 16, c = Nat.digitChar d := by
  induction n using Nat.strongRecOn with
  | ind n ih =>
      intro c hc
      rw [Nat.toDigits_eq_if (by decide)] at hc
      split at hc
      · rename_i hlt
        exact ⟨n, hlt, List.mem_singleton.mp hc⟩
      · rename_i hge
        rcases List.mem_append.mp hc with hc | hc
        · exact ih _ (Nat.div_lt_self (by omega) (by decide)) c hc
        · exact ⟨n % 16, Nat.mod_lt n (by decide), List.mem_singleton.mp hc⟩

/-- A code point in braces has neither quotes nor line feeds. Besides its digits there are a
backslash, a letter and braces. -/
theorem ne_of_mem_codePointEscape {c d : Char} (h : d ∈ codePointEscape c) :
    d ≠ '"' ∧ d ≠ '\n' := by
  have hdigit : ∀ k < 16, Nat.digitChar k ≠ '"' ∧ Nat.digitChar k ≠ '\n' := by decide
  simp only [codePointEscape, List.mem_append, List.mem_cons, List.not_mem_nil, or_false] at h
  rcases h with ((rfl | rfl | rfl) | h) | rfl
  · decide
  · decide
  · decide
  · obtain ⟨k, hk, rfl⟩ := exists_of_mem_toDigits _ d h
    exact hdigit k hk
  · decide

/-- An escape has a quote only after a backslash, and no line feed. So the quote that ends a text
can be told from those in it, and the line that it stands in does not end early. -/
theorem guarded_escaped (c : Char) : Guarded (escaped c) ∧ '\n' ∉ escaped c := by
  rcases escaped_cases c with ⟨d, hescape, hd⟩ | hescape | ⟨hescape, _, hquote, hline⟩
  · have hfeed : d ≠ '\n' := by
      rintro rfl
      cases hd
    rw [hescape]
    exact ⟨⟨by simp, by simp⟩, by simp [Ne.symm hfeed]⟩
  · rw [hescape]
    exact ⟨guarded_of_not_mem fun h => (ne_of_mem_codePointEscape h).1 rfl,
      fun h => (ne_of_mem_codePointEscape h).2 rfl⟩
  · rw [hescape]
    exact ⟨guarded_of_not_mem (by simpa using Ne.symm hquote), by simpa using Ne.symm hline⟩

/-- So does an escaped text. A backslash of the text is escaped itself, and does not guard a quote
that comes after it. -/
theorem guarded_flatMap (cs : List Char) :
    Guarded (cs.flatMap escaped) ∧ '\n' ∉ cs.flatMap escaped := by
  induction cs with
  | nil => exact ⟨guarded_of_not_mem List.not_mem_nil, List.not_mem_nil⟩
  | cons c cs ih =>
      obtain ⟨hguarded, hfeed⟩ := guarded_escaped c
      rw [List.flatMap_cons]
      exact ⟨guarded_append hguarded ih.1, fun h => (List.mem_append.mp h).elim hfeed ih.2⟩

/-- A quoted text has no line feed, so it keeps to one line. -/
theorem newline_not_mem_quoted (s : String) : '\n' ∉ (quoted s).toList := by
  simp [quoted, (guarded_flatMap s.toList).2]

/-! ### Quoted text at the end of a line -/

/-- Goes back to the nearest quote that has no backslash before it, and collects what stands behind
that quote. The list begins with the latest character. -/
def backToQuote (behind : List Char) : List Char → Option (List Char)
  | [] => none
  | c :: cs =>
    if c = '"' ∧ cs.head? ≠ some '\\' then some behind else backToQuote (c :: behind) cs

/-- The text that is quoted at the end of a line. It is looked for from the end, so it need not be
known what stands before it. -/
def quotedAtEnd? (line : String) : Option String :=
  match line.toList.reverse with
  | '"' :: cs => do
    let escapes ← backToQuote [] cs
    (unescapeFrom .plain escapes).map String.ofList
  | _ => none

/-- A quote that belongs to an escape is passed, and the opening quote is found. The induction is on
the text from its end, as the search goes. -/
theorem backToQuote_guarded {cs front : List Char} (hcs : Guarded cs)
    (hfront : front.head? ≠ some '\\') (behind : List Char) :
    backToQuote behind (cs.reverse ++ '"' :: front) = some (cs ++ behind) := by
  induction cs using List.reverseRecOn generalizing behind with
  | nil => exact if_pos ⟨rfl, hfront⟩
  | append_singleton cs c ih =>
      have hbefore : Guarded cs :=
        ⟨fun h => hcs.head (by cases cs <;> simp_all), (List.isChain_append.mp hcs.chain).1⟩
      -- A quote cannot come first, and what comes before it is a backslash.
      have hpass : ¬ (c = '"' ∧ (cs.reverse ++ '"' :: front).head? ≠ some '\\') := by
        rintro ⟨rfl, hne⟩
        rcases List.eq_nil_or_concat cs with rfl | ⟨ds, d, rfl⟩
        · exact hcs.head rfl
        · refine hne ?_
          rw [List.concat_eq_append, List.reverse_append]
          exact congrArg some ((List.isChain_append.mp hcs.chain).2.2 d (by simp) '"' rfl rfl)
      rw [List.reverse_append, List.reverse_singleton, List.singleton_append, List.cons_append,
        backToQuote, if_neg hpass, ih hbefore, List.append_assoc, List.singleton_append]

/-- Whatever stands before it, a quoted text is read at the end of a line. It is read from its end,
back to the quote that has no backslash before it. -/
theorem quotedAtEnd?_append {front : String} (hfront : front.toList.getLast? ≠ some '\\')
    (s : String) : quotedAtEnd? (front ++ quoted s) = some s := by
  have hreverse : (front ++ quoted s).toList.reverse
      = '"' :: ((s.toList.flatMap escaped).reverse ++ '"' :: front.toList.reverse) := by
    simp [quoted]
  have hlast : front.toList.reverse.head? ≠ some '\\' := by rwa [List.head?_reverse]
  have hback := backToQuote_guarded (guarded_flatMap s.toList).1 hlast []
  unfold quotedAtEnd?
  rw [hreverse]
  simp only [hback, List.append_nil]
  show (unescapeFrom .plain _).map String.ofList = _
  rw [unescapeFrom_flatMap, Option.map_some, String.ofList_toList]

end Highlight.Text
