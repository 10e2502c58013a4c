import Highlight.Json.Record

/-!
# `Highlight.Proofs.Json.Faults`: where a text and a stream are rejected

A text is read as a whole or as a stream by the same readers, so both are accepted with the same
value or rejected for the same reason. What may differ is the place of the error. A stream has also
used the symbol that was looked at last, and a reader fails with two counts of what is left, one for
each way of reading.

`Fault.Near` says that the two counts differ by one byte at most, and `Reader.FailsNear` that all
faults of a reader are like this. A reader is put together from the three ways of failing by
`>>=` and by cases, so its lemma follows from those of its parts. They are tagged for `simp`, which
closes the short branches, and only loops, and the digits of an escape, have arguments of their own.
`Record.failsNear_read` is the last of them.

`Reader.run_whole_stream` is the main statement: the place in a stream is that in the whole text or
one byte further.
-/

set_option autoImplicit false

namespace Highlight.Json

/-- The two places of a fault are the same, or next to each other. Fewer bytes are left of a stream,
since the symbol that was looked at last has been used there. -/
structure Fault.Near (f : Fault) : Prop where
  le : f.leftOfStream ≤ f.leftOfWhole
  ge : f.leftOfWhole ≤ f.leftOfStream + 1

/-- A fault at what has been taken has one place in both ways of reading. No symbol has been looked
at beyond it. -/
theorem Fault.near_here (c : Cause) (rest : List Symbol) : (here c rest).Near :=
  ⟨Nat.le_refl _, Nat.le_succ _⟩

/-- A fault at the next symbol has one place too. The first byte of the symbol counts as used,
whether or not it was only looked at. -/
theorem Fault.near_ahead (c : Cause) (rest : List Symbol) : (ahead c rest).Near :=
  ⟨Nat.le_refl _, Nat.le_succ _⟩

/-- A fault between the two is where the ways of reading differ. With nothing left, the subtraction
stops at 0 and the places are the same again. -/
theorem Fault.near_between (c : Cause) (rest : List Symbol) : (between c rest).Near :=
  ⟨Nat.sub_le _ _, Nat.le_add_of_sub_le (Nat.le_refl _)⟩

namespace Reader

variable {α β : Type} {r : Reader α}

/-- Every fault of a reader has its two places next to each other, whatever text the reader is
given. The property does not speak of what the reader accepts, so it is kept by any continuation. -/
def FailsNear (r : Reader α) : Prop := ∀ rest f, r rest = .error f → f.Near

/-! ### Sequences -/

/-- A reader that only yields a value does not fail. -/
@[simp]
theorem failsNear_pure (a : α) : FailsNear (pure a : Reader α) := nofun

/-- A fault of two readers in sequence is a fault of the first, or of the second on what the first
has left. All readers are sequences, so nearly every lemma below begins with this one. -/
@[simp]
theorem failsNear_bind {k : α → Reader β} (hr : FailsNear r) (hk : ∀ a, FailsNear (k a)) :
    FailsNear (r >>= k) := by
  intro rest f hf
  change r rest >>= (fun (p : α × List Symbol) => k p.1 p.2) = .error f at hf
  -- Which of the two has failed is known from the first alone.
  cases h : r rest with
  | error fault =>
      rw [h] at hf
      cases hf
      exact hr rest _ h
  | ok p =>
      rw [h] at hf
      exact hk p.1 p.2 f hf

/-- A function of the value does not change the faults. -/
@[simp]
theorem failsNear_map {g : α → β} (hr : FailsNear r) : FailsNear (g <$> r) :=
  failsNear_bind hr fun a => failsNear_pure (g a)

/-- A reader whose value is not wanted fails as it does with its value. -/
@[simp]
theorem failsNear_discard (hr : FailsNear r) : FailsNear (discard r) :=
  failsNear_map hr

/-- A fault that was kept and is thrown later keeps its places. `Reader.stringEnd` does this, with
the fault of the first byte that was part of no character. -/
@[simp]
theorem failsNear_throw {f : Fault} (h : f.Near) : FailsNear (throw f : Reader α) := by
  rintro rest g ⟨⟩
  exact h

/-- The first way of failing. Both places are that of what has been taken. -/
@[simp]
theorem failsNear_failHere (c : Cause) : FailsNear (failHere c : Reader α) := by
  rintro rest f ⟨⟩
  exact Fault.near_here c rest

/-- The second way of failing. Both places are that of the next symbol. -/
@[simp]
theorem failsNear_failAhead (c : Cause) : FailsNear (failAhead c : Reader α) := by
  rintro rest f ⟨⟩
  exact Fault.near_ahead c rest

/-- The third way of failing, and the only one whose places differ. -/
@[simp]
theorem failsNear_failBetween (c : Cause) : FailsNear (failBetween c : Reader α) := by
  rintro rest f ⟨⟩
  exact Fault.near_between c rest

/-- Each branch of a decision has to be looked at, and the condition does not matter. -/
@[simp]
theorem failsNear_ite {c : Prop} [Decidable c] {r' : Reader α} (hr : FailsNear r)
    (hr' : FailsNear r') : FailsNear (if c then r else r') := by
  split
  · exact hr
  · exact hr'

/-! ### Steps -/

/-- Looking at the next symbol does not fail. At the end of the text it yields nothing. -/
@[simp]
theorem failsNear_peek : FailsNear peek := nofun

/-- Dropping a symbol does not fail, at the end of the text either. -/
@[simp]
theorem failsNear_skip : FailsNear skip := nofun

/-- White space is dropped without a fault. -/
@[simp]
theorem failsNear_peekToken : FailsNear peekToken := nofun

/-- The only fault before a value is that the text ends there. -/
@[simp]
theorem failsNear_peekValue : FailsNear peekValue := by
  unfold peekValue
  refine failsNear_bind failsNear_peekToken fun s => ?_
  split <;> simp

/-- A word fails at its first symbol that differs, or where the text ends. In both cases the fault
is at a symbol that has been looked at, and not behind it. -/
@[simp]
theorem failsNear_word (cs : List Char) : FailsNear (word cs) := by
  -- The induction is on the letters of the word that are still to come.
  induction cs with
  | nil => exact failsNear_pure _
  | cons c cs ih =>
      unfold word
      refine failsNear_bind failsNear_peek fun s => ?_
      split
      · simp
      · simp [ih]

/-- Between a key and its value there are two faults: another symbol in place of the colon, and the
end of the text. -/
@[simp]
theorem failsNear_colon : FailsNear colon := by
  unfold colon
  refine failsNear_bind failsNear_peekToken fun s => ?_
  split <;> simp

/-- After the last element of a list, a comma is looked behind: it makes a difference for the
message whether the bracket follows it. -/
@[simp]
theorem failsNear_listEnd : FailsNear listEnd := by
  unfold listEnd
  refine failsNear_bind failsNear_peekToken fun s => ?_
  split
  · simp
  · refine failsNear_bind failsNear_skip fun _ => failsNear_bind failsNear_peekToken fun s' => ?_
    split <;> simp
  · simp
  · simp

/-- After the last member of an object, no look is taken behind a comma. All its faults are at the
next symbol. -/
@[simp]
theorem failsNear_objectEnd : FailsNear objectEnd := by
  unfold objectEnd
  refine failsNear_bind failsNear_peekToken fun s => ?_
  split <;> simp

/-- A fault of a list as a whole is thrown after a try to take its end, so its place depends on what
stands there. The last case is the one in which the ways of reading differ. -/
@[simp]
theorem failsNear_failList (c : Cause) : FailsNear (failList c : Reader α) := by
  unfold failList
  refine failsNear_bind failsNear_peekToken fun s => ?_
  split
  · simp
  · refine failsNear_bind failsNear_skip fun _ => ?_
    exact failsNear_bind (failsNear_discard failsNear_peekToken) fun _ => failsNear_failBetween c
  · simp

/-- A fault of an object as a whole, which is thrown in the same way. Here a comma is not taken. -/
@[simp]
theorem failsNear_failObject (c : Cause) : FailsNear (failObject c : Reader α) := by
  unfold failObject
  refine failsNear_bind failsNear_peekToken fun s => ?_
  split <;> simp

/-- Whether a list goes on is decided by one symbol for the first element, and by two for the
others, a comma and what follows it. -/
@[simp]
theorem failsNear_hasElement (first : Bool) : FailsNear (hasElement first) := by
  unfold hasElement
  refine failsNear_bind failsNear_peekToken fun s => ?_
  split
  · simp
  · simp
  · refine failsNear_ite (failsNear_pure _) (failsNear_ite ?_ (failsNear_failAhead _))
    refine failsNear_bind failsNear_skip fun _ => failsNear_bind failsNear_peekToken fun s' => ?_
    split <;> simp

/-- Whether an object goes on is decided in the same way. Besides, what follows has to be a key, and
behind a comma that is a fault of its own. -/
@[simp]
theorem failsNear_hasMember (first : Bool) : FailsNear (hasMember first) := by
  unfold hasMember
  refine failsNear_bind failsNear_peekToken fun s => ?_
  split
  · simp
  · simp
  · refine failsNear_ite (by simp) (failsNear_ite ?_ (failsNear_failAhead _))
    refine failsNear_bind failsNear_skip fun _ => failsNear_bind failsNear_peekToken fun s' => ?_
    split <;> simp

/-- After the value there may only be white space. Anything else is a fault at that symbol. -/
@[simp]
theorem failsNear_textEnd : FailsNear textEnd := by
  unfold textEnd
  refine failsNear_bind failsNear_peekToken fun s => ?_
  split <;> simp

/-! ### Strings -/

/-- The digits of an escape are taken four at once, so their fault is not one of the three: the text
may end before them (nothing is left then), or four bytes are used and are not all digits. -/
@[simp]
theorem failsNear_hexNumber : FailsNear hexNumber := by
  intro rest f hf
  unfold hexNumber at hf
  simp only at hf
  split at hf
  · cases hf
    exact ⟨Nat.le_refl _, Nat.le_succ _⟩
  · split at hf
    · split at hf
      · cases hf
      · cases hf
        exact ⟨Nat.le_refl _, Nat.le_succ _⟩
    · cases hf
      exact ⟨Nat.le_refl _, Nat.le_succ _⟩

/-- The only fault between the characters of a string is that the text ends there. -/
@[simp]
theorem failsNear_peekInString : FailsNear peekInString := by
  unfold peekInString
  refine failsNear_bind failsNear_peek fun s => ?_
  split <;> simp

/-- The second half of a surrogate pair begins with two given symbols, and another one is a fault
there. -/
@[simp]
theorem failsNear_expectInPair (c : Char) : FailsNear (expectInPair c) := by
  unfold expectInPair
  simp

/-- An escape by number is one number, or two if the first is half a surrogate pair. -/
@[simp]
theorem failsNear_numberEscape : FailsNear numberEscape := by
  unfold numberEscape
  refine failsNear_bind failsNear_hexNumber fun n => ?_
  refine failsNear_ite (failsNear_failHere _) (failsNear_ite (failsNear_pure _) ?_)
  refine failsNear_bind (failsNear_expectInPair _) fun _ =>
    failsNear_bind (failsNear_expectInPair _) fun _ => ?_
  simp

/-- An escape that is not known is a fault at its letter, and so is a byte that is part of no
character. -/
@[simp]
theorem failsNear_escape : FailsNear escape := by
  unfold escape
  refine failsNear_bind failsNear_peekInString fun s => ?_
  split
  · simp
  · split <;> simp
  · simp

/-- A string ends with its value, or with the fault that was kept for it. -/
@[simp]
theorem failsNear_stringEnd {stray : Option Fault} (h : ∀ f ∈ stray, f.Near)
    (before : List Char) : FailsNear (stringEnd stray before) := by
  unfold stringEnd
  split
  · simp
  · exact failsNear_throw (h _ rfl)

/-- The fault of a byte that is part of no character is kept until the string ends. So the induction
carries along that a fault which was kept is near. -/
theorem failsNear_stringFrom (fuel : Nat) {stray : Option Fault} (h : ∀ f ∈ stray, f.Near)
    (before : List Char) : FailsNear (stringFrom fuel stray before) := by
  induction fuel generalizing stray before with
  | zero => exact failsNear_failHere _
  | succ fuel ih =>
      -- The first such fault is kept, and later ones do not replace it.
      have hstray : ∀ rest, ∀ f ∈ some (stray.getD (.ahead .invalidCodePoint rest)), f.Near := by
        rintro rest _ ⟨⟩
        cases stray with
        | none => exact Fault.near_ahead _ rest
        | some f => exact h f rfl
      have hget : FailsNear (get : Reader (List Symbol)) := nofun
      unfold stringFrom
      refine failsNear_bind failsNear_peekInString fun s => ?_
      split
      · exact failsNear_bind failsNear_skip fun _ => failsNear_stringEnd h before
      · exact failsNear_bind failsNear_skip fun _ => failsNear_bind failsNear_escape fun c => ih h _
      · exact failsNear_ite (failsNear_failAhead _) (failsNear_bind failsNear_skip fun _ => ih h _)
      · refine failsNear_bind hget fun rest => ?_
        exact failsNear_bind failsNear_skip fun _ => ih (hstray rest) _

/-- A string starts without a fault that was kept. -/
@[simp]
theorem failsNear_string : FailsNear string :=
  fun rest => failsNear_stringFrom _ (by simp) [] rest

/-- An escape that is dropped fails like one that is read, but half a surrogate pair is no fault. -/
@[simp]
theorem failsNear_skipEscape : FailsNear skipEscape := by
  unfold skipEscape
  refine failsNear_bind failsNear_peekInString fun s => ?_
  split <;> simp

/-- A string that is dropped may have bytes that are part of no character, so no fault is kept.
Control characters are rejected in it as well. -/
theorem failsNear_skipStringFrom (fuel : Nat) : FailsNear (skipStringFrom fuel) := by
  induction fuel with
  | zero => exact failsNear_failHere _
  | succ fuel ih =>
      unfold skipStringFrom
      refine failsNear_bind failsNear_peekInString fun s => ?_
      split <;> simp [ih]

/-- A string that is dropped is given the whole text as fuel. -/
@[simp]
theorem failsNear_skipString : FailsNear skipString :=
  fun rest => failsNear_skipStringFrom _ rest

/-! ### Numbers -/

/-- Digits are dropped without a fault. Where a digit must come, its absence is noticed before. -/
@[simp]
theorem failsNear_skipDigits : FailsNear skipDigits := nofun

/-- Counting the digits that are dropped makes no difference. -/
@[simp]
theorem failsNear_countDigits : FailsNear countDigits := nofun

/-- Digits are taken without a fault as well. A number that would pass the limit is reported as such
and is not rejected here. -/
@[simp]
theorem failsNear_digitsWithin (limit fuel n k : Nat) :
    FailsNear (digitsWithin limit fuel n k) := by
  induction fuel generalizing n k with
  | zero => exact failsNear_pure _
  | succ fuel ih =>
      unfold digitsWithin
      refine failsNear_bind failsNear_peek fun s => ?_
      split
      · exact failsNear_pure _
      · exact failsNear_ite (failsNear_pure _) (failsNear_bind failsNear_skip fun _ => ih _ _)

/-- The digits of a word are digits within a limit. -/
@[simp]
theorem failsNear_wordDigits (n : Nat) : FailsNear (wordDigits n) :=
  fun rest => failsNear_digitsWithin _ _ n 0 rest

/-- A number fails after its exponent if no double is great enough. What follows it has been looked
at by then, so this fault has two places. -/
@[simp]
theorem failsNear_scaledNumber (positive : Bool) (n : Nat) (e : Int) :
    FailsNear (scaledNumber positive n e) := by
  unfold scaledNumber
  split
  · exact failsNear_pure _
  · exact failsNear_failBetween _

/-- The digits of an exponent are taken without a fault, the one that passes the limit too. -/
@[simp]
theorem failsNear_exponentDigits (fuel : Nat) : FailsNear (exponentDigits fuel) := by
  unfold exponentDigits
  refine failsNear_bind (failsNear_digitsWithin _ fuel 0 0) fun ⟨_, _, _⟩ => ?_
  exact failsNear_ite (failsNear_bind failsNear_skip fun _ => failsNear_pure _) (failsNear_pure _)

/-- An exponent fails if it has no digit, or if the number is out of range. Both are the same with a
sign and without. -/
@[simp]
theorem failsNear_exponent (positive : Bool) (n : Nat) (e : Int) :
    FailsNear (exponent positive n e) := by
  have hdigits : FailsNear fun rest => exponentDigits rest.length rest :=
    fun rest => failsNear_exponentDigits _ rest
  unfold exponent
  refine failsNear_bind failsNear_skip fun _ => failsNear_bind failsNear_peek fun s => ?_
  split
  case' h_1 => refine failsNear_bind failsNear_skip fun _ => ?_
  case' h_2 => refine failsNear_bind failsNear_skip fun _ => ?_
  -- What follows is the same with a sign and without.
  all_goals
    refine failsNear_bind failsNear_peek fun first => ?_
    refine failsNear_ite (failsNear_failHere _) (failsNear_ite (failsNear_failAhead _) ?_)
    refine failsNear_bind hdigits fun x => ?_
    split
    · exact failsNear_scaledNumber positive n _
    · exact failsNear_ite (failsNear_failHere _) (by simp)

/-- What follows the digits of a number, without a fraction. -/
@[simp]
theorem failsNear_maybeExponent (positive : Bool) (n : Nat) (e : Int) :
    FailsNear (maybeExponent positive n e) := by
  unfold maybeExponent
  refine failsNear_bind failsNear_peek fun s => ?_
  exact failsNear_ite (failsNear_exponent positive n e) (failsNear_scaledNumber positive n e)

/-- A fraction fails if it has no digit. Otherwise it fails as its exponent does, even if the digits
are more than fit into a word. -/
@[simp]
theorem failsNear_fraction (positive : Bool) (n : Nat) (e : Int) :
    FailsNear (fraction positive n e) := by
  unfold fraction
  refine failsNear_bind failsNear_skip fun _ =>
    failsNear_bind (failsNear_wordDigits n) fun ⟨m, k, _⟩ => ?_
  have hrest := failsNear_maybeExponent positive m (e - k)
  refine failsNear_ite (failsNear_bind failsNear_skipDigits fun _ => hrest) ?_
  refine failsNear_ite (failsNear_bind failsNear_peek fun s => ?_) hrest
  exact failsNear_ite (failsNear_failAhead _) (failsNear_failAhead _)

/-- What follows the digits of a number, with a fraction or without. An integer is not out of range,
since it becomes a double where it does not fit. -/
@[simp]
theorem failsNear_afterDigits (positive : Bool) (n : Nat) :
    FailsNear (afterDigits positive n) := by
  unfold afterDigits
  refine failsNear_bind failsNear_peek fun s => ?_
  refine failsNear_ite (failsNear_fraction positive n 0) ?_
  exact failsNear_ite (failsNear_exponent positive n 0) (failsNear_pure _)

/-- The digits that do not fit into a word are counted, and the number goes on as others do. -/
@[simp]
theorem failsNear_longNumber (positive : Bool) (n : Nat) :
    FailsNear (longNumber positive n) := by
  unfold longNumber
  refine failsNear_bind failsNear_countDigits fun k => failsNear_bind failsNear_peek fun s => ?_
  exact failsNear_ite (failsNear_fraction positive n k) (failsNear_maybeExponent positive n k)

/-- A number begins with a digit, and no digit may follow a leading 0. The other faults are those of
what stands behind its digits. -/
@[simp]
theorem failsNear_unsigned (positive : Bool) : FailsNear (unsigned positive) := by
  unfold unsigned
  refine failsNear_bind failsNear_peek fun s => ?_
  split
  · exact failsNear_failHere _
  · split
    · exact failsNear_failAhead _
    · refine failsNear_bind failsNear_skip fun _ => failsNear_bind failsNear_peek fun s' => ?_
      exact failsNear_ite (failsNear_failAhead _) (failsNear_afterDigits positive 0)
    · refine failsNear_bind (failsNear_wordDigits 0) fun ⟨n, _, _⟩ => ?_
      exact failsNear_ite (failsNear_longNumber positive n) (failsNear_afterDigits positive n)

/-- A number fails in the same way with its sign and without. -/
@[simp]
theorem failsNear_number : FailsNear number := by
  unfold number
  refine failsNear_bind failsNear_peek fun s => ?_
  exact failsNear_ite (failsNear_bind failsNear_skip fun _ => failsNear_unsigned false)
    (failsNear_unsigned true)

/-- An exponent that is dropped has digits of any number, so it is never out of range. It has to
have one digit, with a sign or without. -/
@[simp]
theorem failsNear_skipExponent : FailsNear skipExponent := by
  unfold skipExponent
  have hrest : FailsNear (do
      if (digit? (← peek)).isSome then skipDigits else failAhead .invalidNumber) := by simp
  refine failsNear_bind failsNear_skip fun _ => failsNear_bind failsNear_peek fun s => ?_
  split
  · exact failsNear_bind failsNear_skip fun _ => hrest
  · exact failsNear_bind failsNear_skip fun _ => hrest
  · exact hrest

/-- A fraction that is dropped must have a digit, like one that is read. -/
@[simp]
theorem failsNear_skipFraction : FailsNear skipFraction := by
  unfold skipFraction
  refine failsNear_bind failsNear_skip fun _ => failsNear_bind failsNear_peek fun s => ?_
  refine failsNear_ite (failsNear_bind failsNear_skipDigits fun _ => ?_) (failsNear_failAhead _)
  refine failsNear_bind failsNear_peek fun s' => ?_
  exact failsNear_ite failsNear_skipExponent (failsNear_pure _)

/-- A number that is dropped fails where a number that is read does, but for its range. Whether it
has a sign and how its digits begin make a case each, and all of them end alike. -/
@[simp]
theorem failsNear_skipNumber : FailsNear skipNumber := by
  unfold skipNumber
  -- After the digits all cases go on in the same way.
  have hend : FailsNear (do
      let s ← peek
      if s = some (some '.') then skipFraction
      else if isExponentMark s then skipExponent) := by
    refine failsNear_bind failsNear_peek fun s => failsNear_ite failsNear_skipFraction ?_
    exact failsNear_ite failsNear_skipExponent (failsNear_pure _)
  refine failsNear_bind failsNear_peek fun s => ?_
  split
  case' isTrue => refine failsNear_bind failsNear_skip fun _ => ?_
  all_goals
    refine failsNear_bind failsNear_peek fun s' => ?_
    split
    · exact failsNear_bind (failsNear_failAhead _) fun _ => hend
    · refine failsNear_bind failsNear_skip fun _ => failsNear_bind failsNear_peek fun s'' => ?_
      exact failsNear_ite (failsNear_bind (failsNear_failAhead _) fun _ => hend) hend
    · exact failsNear_bind failsNear_skipDigits fun _ => hend

/-! ### Values -/

/-- A value of another kind than expected is read first, for the message, so it may fail before the
message is thrown. -/
@[simp]
theorem failsNear_wrongKind (expected : String) : FailsNear (wrongKind expected : Reader α) := by
  unfold wrongKind
  refine failsNear_bind failsNear_peek fun s => ?_
  split <;> simp

/-- Where a text is expected, the faults are those of a string and those of values of other
kinds. -/
@[simp]
theorem failsNear_stringValue (expected : String) : FailsNear (stringValue expected) := by
  unfold stringValue
  refine failsNear_bind failsNear_peekValue fun s => ?_
  exact failsNear_ite (failsNear_bind failsNear_skip fun _ => failsNear_string)
    (failsNear_wrongKind expected)

/-- Where a text may be left out, there are those of the word `null` besides. -/
@[simp]
theorem failsNear_optionalString : FailsNear optionalString := by
  unfold optionalString
  refine failsNear_bind failsNear_peekToken fun s => failsNear_ite ?_ ?_
  · exact failsNear_bind failsNear_skip fun _ =>
      failsNear_bind (failsNear_word _) fun _ => failsNear_pure none
  · exact failsNear_bind (failsNear_stringValue _) fun s => failsNear_pure (some s)

/-- The elements of a list fail as one of them does, or between two of them. The induction is on the
fuel, and the fault that is left when it runs out lies ahead of the place that was reached. -/
theorem failsNear_elements {element : Reader α} (h : FailsNear element) (fuel : Nat)
    (before : List α) : FailsNear (elements element fuel before) := by
  induction fuel generalizing before with
  | zero => exact failsNear_failAhead _
  | succ fuel ih =>
      unfold elements
      refine failsNear_bind (failsNear_hasElement _) fun more => ?_
      exact failsNear_ite (failsNear_bind h fun a => ih _) (failsNear_pure _)

/-- A list fails as its elements do, or is another kind of value. The fuel depends on the text that
is left, so the elements are treated as one reader of it. -/
@[simp]
theorem failsNear_listValue {element : Reader α} (h : FailsNear element) :
    FailsNear (listValue element) := by
  have helements : FailsNear fun rest => elements element (rest.length + 1) [] rest :=
    fun rest => failsNear_elements h _ [] rest
  unfold listValue
  refine failsNear_bind failsNear_peekValue fun s => ?_
  refine failsNear_ite ?_ (failsNear_wrongKind _)
  refine failsNear_bind failsNear_skip fun _ => failsNear_bind helements fun as => ?_
  simp

/-- The brackets that close after a value which is dropped. The induction is on those that are open,
from the innermost outwards. -/
@[simp]
theorem failsNear_closeBrackets (complete : Bool) (brackets : List Bracket) :
    FailsNear (closeBrackets complete brackets) := by
  induction brackets generalizing complete with
  | nil => exact failsNear_pure _
  | cons b outer ih =>
      unfold closeBrackets
      refine failsNear_bind failsNear_peekToken fun s => ?_
      split
      · simp
      · refine failsNear_ite (by simp) (failsNear_ite ?_ (by simp))
        exact failsNear_bind failsNear_skip fun _ => ih true

/-- A key that is dropped must be a string as well. -/
@[simp]
theorem failsNear_skipKey : FailsNear skipKey := by
  unfold skipKey
  refine failsNear_bind failsNear_peekToken fun s => ?_
  split <;> simp

/-- A value that is dropped, up to the first element or member if it has any. -/
@[simp]
theorem failsNear_skipScalar : FailsNear skipScalar := by
  unfold skipScalar
  refine failsNear_bind failsNear_peekValue fun s => ?_
  split <;> simp

/-- A value that is dropped with all its parts, along the brackets that are open. The fuel bounds
the number of scalars, of which each takes at least one symbol. -/
theorem failsNear_skipFrom (fuel : Nat) (brackets : List Bracket) :
    FailsNear (skipFrom fuel brackets) := by
  induction fuel generalizing brackets with
  | zero => exact failsNear_failAhead _
  | succ fuel ih =>
      unfold skipFrom
      refine failsNear_bind failsNear_skipScalar fun b => ?_
      split
      all_goals
        refine failsNear_bind (failsNear_closeBrackets _ _) fun left => ?_
        dsimp only
        split <;> simp [ih]

/-- A value that is dropped begins with no bracket open. -/
@[simp]
theorem failsNear_skipValue : FailsNear skipValue :=
  fun rest => failsNear_skipFrom _ [] rest

end Reader

/-! ### Records -/

namespace Record

open Reader

variable {σ : Type} {r : Record σ}

/-- The members of an object fail as the fields do that they are for, or between each other. Members
with unknown keys are dropped, and a field that comes twice or is missing is a fault of the
object. -/
theorem failsNear_members (h : ∀ f ∈ r.fields, ∀ a, FailsNear (f.read a)) (fuel : Nat)
    (first : Bool) (a : σ) : FailsNear (r.members fuel first a) := by
  induction fuel generalizing first a with
  | zero => exact failsNear_failAhead _
  | succ fuel ih =>
      -- A field that was found by its key is one of those of the record.
      have hread : ∀ key f, (r.fields.find? fun f => f.name == key) = some f →
          ∀ a, FailsNear (f.read a) := fun key f hf => h f (List.mem_of_find?_eq_some hf)
      unfold members
      refine failsNear_bind (failsNear_hasMember first) fun more => ?_
      split
      · refine failsNear_bind failsNear_skip fun _ => failsNear_bind failsNear_string fun key => ?_
        split
        · exact failsNear_bind failsNear_colon fun _ =>
            failsNear_bind failsNear_skipValue fun _ => ih false a
        · rename_i f hf
          -- Whether the field was set before decides on a fault in front of its value.
          have hrest := failsNear_bind failsNear_colon fun _ =>
            failsNear_bind (hread key f hf a) fun a => ih false a
          exact failsNear_ite (failsNear_bind (failsNear_failObject _) fun _ => hrest) hrest
      · split <;> simp

/-- The values of a list fail as the fields do that they are for. A list that is too short is a
fault of the list. -/
theorem failsNear_values {fs : List (Field σ)} (h : ∀ f ∈ fs, ∀ a, FailsNear (f.read a))
    (index : Nat) (a : σ) : FailsNear (r.values fs index a) := by
  induction fs generalizing index a with
  | nil => exact failsNear_pure _
  | cons f fs ih =>
      unfold values
      refine failsNear_bind (failsNear_hasElement _) fun more => failsNear_ite ?_ ?_
      · have hread := h f List.mem_cons_self a
        exact failsNear_bind hread fun a => ih (fun g hg => h g (List.mem_cons_of_mem f hg)) _ a
      · split <;> simp

/-- A record fails as its fields do, whether it was written as a list or as an object. So it is
enough to look at the readers of the fields of a record. -/
theorem failsNear_read (h : ∀ f ∈ r.fields, ∀ a, FailsNear (f.read a)) : FailsNear r.read := by
  have hmembers : FailsNear fun rest => r.members (rest.length + 1) true r.blank rest :=
    fun rest => failsNear_members h _ true r.blank rest
  have hvalues := failsNear_values (r := r) h 0 r.blank
  unfold read
  refine failsNear_bind failsNear_peekValue fun s => ?_
  split
  · exact failsNear_bind failsNear_skip fun _ => failsNear_bind hvalues fun a =>
      failsNear_bind failsNear_listEnd fun _ => failsNear_pure a
  · exact failsNear_bind failsNear_skip fun _ => failsNear_bind hmembers fun a =>
      failsNear_bind failsNear_objectEnd fun _ => failsNear_pure a
  · exact failsNear_wrongKind r.title

end Record

/-! ### The two ways of reading -/

namespace Reader

variable {α : Type} {r : Reader α}

/-- A reader takes the same from a whole text as from a stream. If it fails, it does so for the same
reason, and the place in the stream is that in the whole text or one byte further. -/
theorem run_whole_stream (h : FailsNear r) (text : List Symbol) :
    (∃ a, r.run .whole text = .ok a ∧ r.run .stream text = .ok a) ∨
    ∃ cause n k, k ≤ 1 ∧ n + k ≤ Symbol.size text ∧
      r.run .whole text
        = .error ⟨cause, (Symbol.place text n).1, (Symbol.place text n).2⟩ ∧
      r.run .stream text
        = .error ⟨cause, (Symbol.place text (n + k)).1, (Symbol.place text (n + k)).2⟩ := by
  -- The end of the text belongs to the reader that is run.
  have hall : FailsNear (do let a ← r; textEnd; return a) :=
    failsNear_bind h fun a => failsNear_bind failsNear_textEnd fun _ => failsNear_pure a
  unfold run
  split
  · rename_i a _ _
    exact Or.inl ⟨a, rfl, rfl⟩
  · rename_i f hf
    obtain ⟨hle, hge⟩ := hall text f hf
    -- The places are counted from the front here, and those of a fault from the end.
    let used := Symbol.size text - f.leftOfWhole
    let further := Symbol.size text - f.leftOfStream - used
    have hsum : used + further = Symbol.size text - f.leftOfStream := by omega
    refine Or.inr ⟨f.cause, used, further, by omega, by omega, rfl, ?_⟩
    rw [hsum]
    rfl

end Reader

end Highlight.Json
