import Highlight.Json.Record

/-!
# `Highlight.Proofs.Json.Yields`: what holds of all that a reader accepts

A reader accepts many texts for one value. `Reader.Yields` is a property of every value that comes
out of it, whatever the text was. `yields_bind` takes a reader apart at a `>>=`.

The main statements are `lengthValue_yields`, that no length is greater than a word of 64 bits, and
`Record.read_yields`. A property of a record that each of its fields keeps when it is read holds of
the whole record, written as an object or as a list, also if fields are left out.
-/

set_option autoImplicit false

namespace Highlight.Json

namespace Reader

variable {α β : Type} {P : α → Prop} {Q : β → Prop} {r : Reader α}

/-- Every value that a reader accepts has a property, whatever the text was. A reader that fails
yields nothing, so failures need no argument of their own. -/
def Yields (r : Reader α) (P : α → Prop) : Prop :=
  ∀ rest a rest', r rest = .ok (a, rest') → P a

/-- A reader that only yields a value, which has the property. -/
theorem yields_pure {a : α} (h : P a) : Yields (pure a) P := by
  intro rest b rest' hb
  cases hb
  exact h

/-- The first way of failing yields nothing. -/
theorem yields_failHere (c : Cause) : Yields (failHere c) P := nofun

/-- The second way of failing yields nothing. -/
theorem yields_failAhead (c : Cause) : Yields (failAhead c) P := nofun

/-- The third way of failing yields nothing. -/
theorem yields_failBetween (c : Cause) : Yields (failBetween c) P := nofun

/-- Nothing but that there is a value. It stands for readers of which no property is needed. -/
theorem yields_true (r : Reader α) : Yields r fun _ => True := fun _ _ _ _ => trivial

/-- If the first of two readers yields values with a property, the second need only be looked at for
those. -/
theorem yields_bind {k : α → Reader β} (hr : Yields r P) (hk : ∀ a, P a → Yields (k a) Q) :
    Yields (r >>= k) Q := by
  intro rest b rest' hb
  change r rest >>= (fun (p : α × List Symbol) => k p.1 p.2) = .ok (b, rest') at hb
  -- A value of both comes from a value of the first.
  cases h : r rest with
  | error f =>
      rw [h] at hb
      cases hb
  | ok p =>
      rw [h] at hb
      exact hk p.1 (hr rest p.1 p.2 h) p.2 b rest' hb

/-- A reader whose first part does not matter for the property. -/
theorem yields_then {k : α → Reader β} (hk : ∀ a, Yields (k a) Q) : Yields (r >>= k) Q :=
  yields_bind (yields_true r) fun a _ => hk a

/-- In each branch of a decision, what was decided is known. -/
theorem yields_ite {c : Prop} [Decidable c] {r s : Reader α} (hr : c → Yields r P)
    (hs : ¬c → Yields s P) : Yields (if c then r else s) P := by
  split
  · exact hr ‹_›
  · exact hs ‹_›

/-- A reader that is given what is left, to take its length as fuel. The property holds for any
fuel. -/
theorem yields_rest {r : List Symbol → Reader α} (h : ∀ rest, Yields (r rest) P) :
    Yields (fun rest => r rest rest) P :=
  fun rest a rest' ha => h rest rest a rest' ha

/-- What holds of all that a reader accepts holds of what it makes of a whole text. A run reads a
value and then asks for the end, which does not change the value. -/
theorem of_run {source : Source} {text : List Symbol} {a : α} (hr : Yields r P)
    (h : r.run source text = .ok a) : P a := by
  unfold run at h
  split at h
  · rename_i b rest hb
    cases h
    exact yields_bind hr (fun a ha => yields_then fun _ => yields_pure ha) text a rest hb
  · cases h

/-! ### Failures with a message -/

/-- A value of the wrong kind is read for the message only, and nothing comes out of it. So it has
any property, which is how it is used. -/
theorem wrongKind_yields (expected : String) : Yields (wrongKind expected) P := by
  refine yields_then fun s => ?_
  -- There is a case for each way in which a value can begin.
  split
  · exact yields_then fun _ => yields_then fun _ => yields_failHere _
  · exact yields_then fun _ => yields_then fun _ => yields_failHere _
  · exact yields_then fun _ => yields_then fun _ => yields_failHere _
  · exact yields_then fun _ => yields_then fun _ => yields_failHere _
  · exact yields_failBetween _
  · exact yields_failBetween _
  · exact yields_ite (fun _ => yields_then fun _ => yields_failBetween _) fun _ =>
      yields_failAhead _

/-- A fault of a list as a whole, whatever stands at its end. -/
theorem failList_yields (c : Cause) : Yields (failList c) P := by
  refine yields_then fun s => ?_
  split
  · exact yields_then fun _ => yields_failHere c
  · exact yields_then fun _ => yields_then fun _ => yields_failBetween c
  · exact yields_failBetween c

/-- A fault of an object as a whole, whatever stands at its end. -/
theorem failObject_yields (c : Cause) : Yields (failObject c) P := by
  refine yields_then fun s => ?_
  split
  · exact yields_then fun _ => yields_failHere c
  · exact yields_failBetween c

/-! ### Numbers -/

/-- A number that is taken digit by digit keeps to its limit, if it did so to begin with. The digit
that would pass the limit is not taken. -/
theorem digitsWithin_yields {limit n : Nat} (hn : n ≤ limit) (fuel k : Nat) :
    Yields (digitsWithin limit fuel n k) fun p => p.1 ≤ limit := by
  induction fuel generalizing n k with
  | zero => exact yields_pure hn
  | succ fuel ih =>
      refine yields_then fun s => ?_
      split
      · exact yields_pure hn
      · exact yields_ite (fun _ => yields_pure hn) fun hlt =>
          yields_then fun _ => ih (Nat.le_of_not_lt hlt) _

/-- A number that is taken as a word fits into 64 bits. -/
theorem wordDigits_yields {n : Nat} (hn : n ≤ greatestWord) :
    Yields (wordDigits n) fun p => p.1 ≤ greatestWord :=
  yields_rest (r := fun rest => digitsWithin greatestWord rest.length n 0) fun rest =>
    digitsWithin_yields hn rest.length 0

end Reader

/-- A number is no integer beyond the greatest word. Negative integers and doubles are of no
concern, since they are no lengths. -/
def Kind.Fits (k : Kind) : Prop := ∀ n : Nat, k = .integer n → n ≤ greatestWord

/-- A double is no integer. -/
theorem Kind.fits_ofDouble (positive : Bool) (d : Decimal.Double) : (ofDouble positive d).Fits :=
  nofun

/-- The kind of digits that make up a word: with a minus sign they are a negative integer or a
double. -/
theorem Kind.fits_ofDigits (positive : Bool) {n : Nat} (hn : n ≤ greatestWord) :
    (ofDigits positive n).Fits := by
  intro m hm
  unfold ofDigits at hm
  split at hm
  · cases hm
    exact hn
  · split at hm
    · cases hm
    · have hneg := Kind.integer.inj hm
      omega

namespace Reader

/-- A number that was scaled by a power of ten is a double. -/
theorem scaledNumber_yields (positive : Bool) (n : Nat) (e : Int) :
    Yields (scaledNumber positive n e) Kind.Fits := by
  unfold scaledNumber
  split
  · exact yields_pure (Kind.fits_ofDouble positive _)
  · exact yields_failBetween _

/-- A number with an exponent is a double, however great the exponent is. If the exponent is too
long to be read, the number is 0 or a fault. -/
theorem exponent_yields (positive : Bool) (n : Nat) (e : Int) :
    Yields (exponent positive n e) Kind.Fits := by
  refine yields_then fun _ => yields_then fun s => ?_
  -- The sign of the exponent makes no difference to what comes after it.
  extract_lets digits
  have hdigits : ∀ u up, Yields (digits u up) Kind.Fits := by
    refine fun _ up => yields_then fun first => yields_ite (fun _ => yields_failHere _) fun _ =>
      yields_ite (fun _ => yields_failAhead _) fun _ => yields_then fun x => ?_
    cases x with
    | some x => exact scaledNumber_yields positive n _
    | none =>
        exact yields_ite (fun _ => yields_failHere _) fun _ =>
          yields_then fun _ => yields_pure (Kind.fits_ofDouble positive .zero)
  split
  · exact yields_then fun u => hdigits u true
  · exact yields_then fun _ => hdigits () false
  · exact hdigits () true

/-- What follows the digits of a number that is no integer makes it a double. -/
theorem maybeExponent_yields (positive : Bool) (n : Nat) (e : Int) :
    Yields (maybeExponent positive n e) Kind.Fits :=
  yields_then fun _ => yields_ite (fun _ => exponent_yields positive n e) fun _ =>
    scaledNumber_yields positive n e

/-- A number with a fraction is a double, even if all digits of the fraction are 0. -/
theorem fraction_yields (positive : Bool) (n : Nat) (e : Int) :
    Yields (fraction positive n e) Kind.Fits := by
  refine yields_then fun _ => yields_then fun ⟨m, k, passed⟩ =>
    yields_ite (fun _ => yields_then fun _ => maybeExponent_yields positive m _) fun _ =>
      yields_ite (fun _ => ?_) fun _ => maybeExponent_yields positive m _
  exact yields_then fun _ => yields_ite (fun _ => yields_failAhead _) fun _ => yields_failAhead _

/-- Digits that fit into a word stay an integer unless a fraction or an exponent follows. -/
theorem afterDigits_yields (positive : Bool) {n : Nat} (hn : n ≤ greatestWord) :
    Yields (afterDigits positive n) Kind.Fits :=
  yields_then fun _ => yields_ite (fun _ => fraction_yields positive n 0) fun _ =>
    yields_ite (fun _ => exponent_yields positive n 0) fun _ =>
      yields_pure (Kind.fits_ofDigits positive hn)

/-- Digits that do not fit into a word make a double. -/
theorem longNumber_yields (positive : Bool) (n : Nat) :
    Yields (longNumber positive n) Kind.Fits :=
  yields_then fun k => yields_then fun _ => yields_ite (fun _ => fraction_yields positive n k)
    fun _ => maybeExponent_yields positive n k

/-- A number without its sign. The digits fit into a word, or they are read on as a long number,
which is a double. -/
theorem unsigned_yields (positive : Bool) : Yields (unsigned positive) Kind.Fits := by
  refine yields_then fun s => ?_
  split
  · exact yields_failHere _
  split
  · exact yields_failAhead _
  · exact yields_then fun _ => yields_then fun _ => yields_ite (fun _ => yields_failAhead _)
      fun _ => afterDigits_yields positive (Nat.zero_le _)
  · exact yields_bind (wordDigits_yields (Nat.zero_le _)) fun ⟨n, k, passed⟩ hn =>
      yields_ite (fun _ => longNumber_yields positive n) fun _ => afterDigits_yields positive hn

/-- No integer that is read is beyond the greatest word. -/
theorem number_yields : Yields number Kind.Fits :=
  yields_then fun _ => yields_ite (fun _ => yields_then fun _ => unsigned_yields false) fun _ =>
    unsigned_yields true

/-- A length that is read fits into 64 bits. Numbers that are no such integer are rejected as being
of the wrong kind. -/
theorem lengthValue_yields : Yields lengthValue fun n => n ≤ greatestWord := by
  refine yields_then fun s => yields_ite (fun _ => yields_bind number_yields fun k hk => ?_)
    fun _ => wrongKind_yields _
  split
  · rename_i n
    exact yields_pure (hk n rfl)
  · exact yields_failBetween _
  · exact yields_failBetween _

/-! ### Lists and records -/

variable {α : Type} {P : α → Prop} {element : Reader α}

/-- The elements that are read have the property if those that were read before do. They are
gathered in reverse, and turned round at the end. -/
theorem elements_yields (h : Yields element P) (fuel : Nat) {before : List α}
    (hbefore : ∀ a ∈ before, P a) :
    Yields (elements element fuel before) fun as => ∀ a ∈ as, P a := by
  induction fuel generalizing before with
  | zero => exact yields_failAhead _
  | succ fuel ih =>
      refine yields_then fun more => yields_ite (fun _ => yields_bind h fun a ha => ?_) fun _ =>
        yields_pure fun a ha => hbefore a (List.mem_reverse.mp ha)
      exact ih (List.forall_mem_cons.mpr ⟨ha, hbefore⟩)

/-- What holds of all elements that are read holds of those of a list. -/
theorem listValue_yields (h : Yields element P) :
    Yields (listValue element) fun as => ∀ a ∈ as, P a := by
  refine yields_then fun s => yields_ite (fun _ => yields_then fun _ => ?_) fun _ =>
    wrongKind_yields _
  exact yields_bind (yields_rest fun rest => elements_yields h _ (List.forall_mem_nil P))
    fun as has => yields_then fun _ => yields_pure has

end Reader

namespace Record

open Reader

variable {σ : Type} {r : Record σ} {I : σ → Prop}

/-- Reading a field keeps a property of the record. It is asked of the fields of a record one by
one. -/
def Keeps (r : Record σ) (I : σ → Prop) : Prop := ∀ f ∈ r.fields, ∀ a, I a → Yields (f.read a) I

/-- The members of an object keep the property, in any order, with unknown keys among them. A field
that is missing makes the object fail, so nothing is yielded then. -/
theorem members_yields (h : r.Keeps I) (fuel : Nat) (first : Bool) {a : σ} (ha : I a) :
    Yields (r.members fuel first a) I := by
  induction fuel generalizing first a with
  | zero => exact yields_failAhead _
  | succ fuel ih =>
      refine yields_then fun more => yields_ite (fun _ => yields_then fun _ =>
        yields_then fun key => ?_) fun _ => ?_
      · split
        · exact yields_then fun _ => yields_then fun _ => ih false ha
        · -- A field that was found by its key is one of those of the record.
          rename_i f hf
          have hread : Yields (f.read a >>= r.members fuel false) I :=
            yields_bind (h f (List.mem_of_find?_eq_some hf) a ha) fun b hb => ih false hb
          exact yields_ite (fun _ => yields_then fun _ => yields_then fun _ => hread) fun _ =>
            yields_then fun _ => hread
      · split
        · exact failObject_yields _
        · exact yields_pure ha

/-- The values of a list keep the property. The list may end before its last fields, if none of
these has to be there. -/
theorem values_yields {fields : List (Field σ)} (h : ∀ f ∈ fields, ∀ a, I a → Yields (f.read a) I)
    (index : Nat) {a : σ} (ha : I a) : Yields (r.values fields index a) I := by
  induction fields generalizing index a with
  | nil => exact yields_pure ha
  | cons f fs ih =>
      have hfs := List.forall_mem_cons.mp h
      refine yields_then fun more => yields_ite (fun _ => yields_bind (hfs.1 a ha) fun b hb =>
        ih hfs.2 (index + 1) hb) fun _ => ?_
      split
      · exact failList_yields _
      · exact yields_pure ha

/-- What each field keeps holds of the records that are read, from an object or from a list. A blank
record must have the property to begin with. -/
theorem read_yields (h : r.Keeps I) (hblank : I r.blank) : Yields r.read I := by
  refine yields_then fun s => ?_
  split
  · exact yields_then fun _ => yields_bind (values_yields h 0 hblank) fun a ha =>
      yields_then fun _ => yields_pure ha
  · exact yields_then fun _ =>
      yields_bind (yields_rest fun rest => members_yields h _ true hblank) fun a ha =>
        yields_then fun _ => yields_pure ha
  · exact wrongKind_yields _

end Record

end Highlight.Json
