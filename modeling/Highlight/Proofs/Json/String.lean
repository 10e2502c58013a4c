import Highlight.Json.String
import Highlight.Proofs.Json.Reader
import Mathlib.Tactic.SplitIfs

/-!
# `Highlight.Proofs.Json.String`: strings come back from their written form

`string_written` is the main statement: what `written` puts between quotes, `Reader.string` takes
back, whatever the characters are and whatever follows. `stringFrom_escaped` is the step for one
character. It has a case for each way in which `escaped` writes one, and only the digits of a
control character have to be computed.
-/

set_option autoImplicit false

namespace Highlight.Json

open Highlight.Json.Symbol

namespace Symbol

/-- No symbol is without a byte. -/
theorem width_pos (s : Symbol) : 0 < s.width := by
  cases s with
  | none => exact Nat.one_pos
  | some c => exact c.utf8Size_pos

/-- Each symbol takes a byte at least. So if enough symbols are left for an escape, then enough
bytes are, which is what its reader asks for. -/
theorem length_le_size (ss : List Symbol) : ss.length ≤ size ss := by
  -- The sum is a left fold, so the induction needs any number to begin with.
  have hfold : ∀ n, n + ss.length ≤ ss.foldl (fun n s => n + s.width) n := by
    induction ss with
    | nil => exact fun n => Nat.le_refl n
    | cons s ss ih =>
        intro n
        have hpos := width_pos s
        have hrest := ih (n + s.width)
        rw [List.foldl_cons, List.length_cons]
        omega
  have h := hfold 0
  rwa [Nat.zero_add] at h

end Symbol

/-- Each character writes something, so it uses fuel. -/
theorem escaped_ne_nil (c : Char) : escaped c ≠ [] := by
  unfold escaped
  split_ifs <;> exact List.cons_ne_nil _ _

/-- A hexadecimal digit is read as it is written. Lower-case letters are written, and those of both
cases are read. -/
theorem hexDigit?_digitChar : ∀ d < 16, hexDigit? (Nat.digitChar d) = some d := by
  decide

namespace Reader

variable {rest rest' : List Symbol} {fuel : Nat} {before : List Char} {c : Char}

/-! ### Escapes -/

/-- The last two digits of a control character are read as they are written, behind two zeros.
Control characters are less than `0x20`, so two digits are enough for them. -/
theorem hexNumber_control (hc : c.toNat < 0x20) (rest : List Symbol) :
    hexNumber (ofChars ['0', '0', Nat.digitChar (c.toNat / 16), Nat.digitChar (c.toNat % 16)]
      ++ rest) = .ok (c.toNat, rest) := by
  have hhigh := hexDigit?_digitChar (c.toNat / 16) (by omega)
  have hlow := hexDigit?_digitChar (c.toNat % 16) (by omega)
  have hzero : hexDigit? '0' = some 0 := by decide
  unfold hexNumber
  rw [if_neg]
  · -- The digits make up the number again.
    simp only [ofChars, List.map_cons, List.map_nil, List.cons_append, List.nil_append, hhigh, hlow,
      hzero]
    rw [show ((0 * 16 + 0) * 16 + c.toNat / 16) * 16 + c.toNat % 16 = c.toNat by omega]
  · -- There are four symbols at least, and so there are four bytes.
    have hlength := length_le_size (ofChars ['0', '0', Nat.digitChar (c.toNat / 16),
      Nat.digitChar (c.toNat % 16)] ++ rest)
    rw [List.length_append] at hlength
    exact Nat.not_lt.mpr (Nat.le_trans (Nat.le_add_right 4 _) hlength)

/-- An escape by number is read as the control character that it was written for. Such a number is
no half of a surrogate pair. -/
theorem escape_control (hc : c.toNat < 0x20) (rest : List Symbol) :
    escape (ofChars ['u', '0', '0', Nat.digitChar (c.toNat / 16), Nat.digitChar (c.toNat % 16)]
      ++ rest) = .ok (c, rest) := by
  show numberEscape (ofChars ['0', '0', _, _] ++ rest) = _
  unfold numberEscape
  rw [bind_of_ok (hexNumber_control hc rest), if_neg (by omega), if_pos (by omega),
    Char.ofNat_toNat]
  rfl

/-! ### One character -/

/-- What an escape is read as is the next character of the string. -/
theorem stringFrom_escape (h : escape rest = .ok (c, rest')) :
    stringFrom (fuel + 1) none before (some '\\' :: rest)
      = stringFrom fuel none (c :: before) rest' := by
  show (escape >>= fun c => stringFrom fuel none (c :: before)) rest = _
  exact bind_of_ok h

/-- A character that stands for itself is the next one of the string. It is none that ends the
string, begins an escape, or may not stand there. -/
theorem stringFrom_plain (hquote : c ≠ '"') (hslash : c ≠ '\\') (hcontrol : isControl c = false) :
    stringFrom (fuel + 1) none before (some c :: rest)
      = stringFrom fuel none (c :: before) rest := by
  rw [stringFrom, bind_of_ok (show peekInString (some c :: rest) = .ok (some c, _) from rfl)]
  simp only [hcontrol, Bool.false_eq_true, if_false]
  exact bind_of_ok (skip_cons _ _)

/-- A character is read as it is written, with an escape or without. One round of the reader is used
for it, whatever form it has. -/
theorem stringFrom_escaped (c : Char) (rest : List Symbol) :
    stringFrom (fuel + 1) none before (ofChars (escaped c) ++ rest)
      = stringFrom fuel none (c :: before) rest := by
  unfold escaped
  -- The first seven have short escapes, which compute. Then come the other control characters, and
  -- last those that need no escape.
  split_ifs with hquote hslash hb hf hn hr ht hcontrol
  · subst hquote
    exact stringFrom_escape rfl
  · subst hslash
    exact stringFrom_escape rfl
  · subst hb
    exact stringFrom_escape rfl
  · subst hf
    exact stringFrom_escape rfl
  · subst hn
    exact stringFrom_escape rfl
  · subst hr
    exact stringFrom_escape rfl
  · subst ht
    exact stringFrom_escape rfl
  · exact stringFrom_escape (escape_control (of_decide_eq_true hcontrol) rest)
  · exact stringFrom_plain hquote hslash (by simpa using hcontrol)

/-! ### Strings -/

/-- At the closing quote the characters are put in order again, since they were gathered in
reverse. -/
theorem stringFrom_end (before : List Char) (rest : List Symbol) :
    stringFrom (fuel + 1) none before (some '"' :: rest)
      = .ok (String.ofList before.reverse, rest) := rfl

/-- The characters of a string are read as they are written, up to the closing quote. The fuel
suffices if there is more of it than the written characters take. -/
theorem stringFrom_written (cs : List Char) (hfuel : (cs.flatMap escaped).length < fuel)
    (before : List Char) (rest : List Symbol) :
    stringFrom fuel none before (ofChars (cs.flatMap escaped) ++ some '"' :: rest)
      = .ok (String.ofList (before.reverse ++ cs), rest) := by
  induction cs generalizing fuel before with
  | nil =>
      obtain ⟨fuel, rfl⟩ := Nat.exists_eq_add_one.mpr hfuel
      rw [List.append_nil]
      exact stringFrom_end before rest
  | cons c cs ih =>
      rw [List.flatMap_cons, List.length_append] at hfuel
      -- The fuel counts characters that are read, and each of them was written with one at least.
      have hpos : 0 < (escaped c).length := List.length_pos_iff.mpr (escaped_ne_nil c)
      obtain ⟨fuel, rfl⟩ : ∃ n, fuel = n + 1 := Nat.exists_eq_add_one.mpr (by omega)
      rw [List.flatMap_cons, ofChars_append, List.append_assoc, stringFrom_escaped, ih (by omega),
        List.reverse_cons, List.append_assoc, List.singleton_append]

/-- A string is read as it is written, whatever follows. The opening quote has been taken before. -/
theorem string_written (s : String) (rest : List Symbol) :
    string (ofChars (s.toList.flatMap escaped ++ ['"']) ++ rest) = .ok (s, rest) := by
  unfold string
  rw [ofChars_append, List.append_assoc]
  show stringFrom _ none [] (ofChars _ ++ some '"' :: rest) = _
  rw [stringFrom_written _ (length_lt_ofChars_append _ _), List.reverse_nil, List.nil_append,
    String.ofList_toList]

end Reader

end Highlight.Json
