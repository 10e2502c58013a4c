import Highlight.Proofs.Json.Number
import Highlight.Proofs.Json.String
import Highlight.Span.Json

/-!
# `Highlight.Proofs.Json.Layout`: what a layout writes can be read

A layout may put blanks between the parts of a text, and nothing else (`Layout.Sound`). So it does
not matter to a reader in which layout a text was written. `reads_list` has this for lists, and
`reads_object` for records that are written with all their fields in order.

Both take a text apart at its commas. After the first part, each further one stands behind a comma
and a gap (`Layout.tail`), and the readers go through them by induction.
-/

set_option autoImplicit false

namespace Highlight

open Json Json.Symbol Json.Reader

/-! ### Layouts -/

namespace Layout

/-- A layout puts only blanks between the parts of a text: in the gap before a part and behind a
colon. The lemmas below use nothing else of a layout, so they hold of the compact and of the pretty
one. -/
structure Sound (l : Layout) : Prop where
  gap : ∀ depth, Blank (l.gap depth)
  colon : ∃ ws, Blank ws ∧ l.colon = ':' :: ws

/-- The compact layout puts nothing there. -/
theorem sound_compact : compact.Sound := ⟨fun _ => blank_nil, [], blank_nil, rfl⟩

/-- The pretty layout puts a line feed and the blanks of the depth in a gap, and one blank behind a
colon. -/
theorem sound_pretty : pretty.Sound where
  gap depth c hc := by
    -- The line feed comes first, and then there are only spaces.
    rcases List.mem_cons.mp hc with rfl | hc
    · rfl
    · rw [List.eq_of_mem_replicate hc]
      rfl
  colon := ⟨[' '], fun c hc => by rw [List.mem_singleton.mp hc]; rfl, rfl⟩

/-- What is written for the parts after the first one: each of them behind a comma and a gap. -/
def tail (l : Layout) (depth : Nat) (parts : List (List Char)) : List Char :=
  parts.flatMap fun p => ',' :: (l.gap (depth + 1) ++ p)

/-- What is written after an opening bracket, up to the closing one. Without parts there is no gap
either. -/
def body (l : Layout) (depth : Nat) (closing : Char) : List (List Char) → List Char
  | [] => [closing]
  | p :: parts =>
    l.gap (depth + 1) ++ p ++ l.tail depth parts ++ l.gap depth ++ [closing]

/-- Putting commas between parts is putting one in front of each part but the first. In the second
form a reader can take the parts off one after another. -/
theorem intercalate_comma (l : Layout) (depth : Nat) (p : List Char) (parts : List (List Char)) :
    List.intercalate [','] ((p :: parts).map fun p => l.gap (depth + 1) ++ p)
      = l.gap (depth + 1) ++ p ++ l.tail depth parts := by
  induction parts generalizing p with
  | nil => simp [tail]
  | cons q parts ih =>
      rw [List.map_cons, List.map_cons, List.intercalate_cons_cons, ← List.map_cons, ih]
      simp [tail]

/-- A text in brackets is the opening bracket and its body. The body ends with the closing bracket,
and can be cut after each of its parts, which is what the induction over the parts needs. -/
theorem bracketed_eq (l : Layout) (depth : Nat) (opening closing : Char)
    (parts : List (List Char)) :
    l.bracketed depth opening closing parts = opening :: l.body depth closing parts := by
  cases parts with
  | nil => rfl
  | cons p parts =>
      rw [bracketed, if_neg (by simp), intercalate_comma]
      rfl

variable {l : Layout} {depth : Nat} {rest : List Symbol}

/-- The symbols of a tail, with the first of its parts set apart from the others. -/
theorem tail_cons (l : Layout) (depth : Nat) (p : List Char) (parts : List (List Char))
    (rest : List Symbol) :
    ofChars (l.tail depth (p :: parts)) ++ rest
      = some ',' :: (ofChars (l.gap (depth + 1)) ++ (ofChars p
        ++ (ofChars (l.tail depth parts) ++ rest))) := by
  simp [tail, ofChars]

/-- The symbols of a body, with its first part set apart from the tail. -/
theorem body_cons (l : Layout) (depth : Nat) (closing : Char) (p : List Char)
    (parts : List (List Char)) (rest : List Symbol) :
    ofChars (l.body depth closing (p :: parts)) ++ rest
      = ofChars (l.gap (depth + 1)) ++ (ofChars p ++ (ofChars (l.tail depth parts)
        ++ (ofChars (l.gap depth) ++ some closing :: rest))) := by
  simp [body, ofChars]

/-- The length of a tail, which bounds the fuel that its readers need. A part adds one at least, for
its comma. -/
theorem length_tail_cons (l : Layout) (depth : Nat) (p : List Char) (parts : List (List Char)) :
    (l.tail depth (p :: parts)).length
      = (l.gap (depth + 1)).length + p.length + (l.tail depth parts).length + 1 := by
  simp only [tail, List.flatMap_cons, List.length_append, List.length_cons]
  omega

/-- Behind a part there is a comma, a blank, or a bracket that closes the text. None of them could
go on with a number, so the part ends where it was written to end. -/
theorem delimited_tail (hl : l.Sound) (parts : List (List Char)) {closing : Char}
    (hclosing : Delimited (some closing :: rest)) :
    Delimited (ofChars (l.tail depth parts)
      ++ (ofChars (l.gap depth) ++ some closing :: rest)) := by
  -- Without another part, the gap before the bracket comes next. Otherwise it is a comma.
  cases parts with
  | nil =>
      show Delimited (ofChars (l.gap depth) ++ some closing :: rest)
      exact delimited_blank (hl.gap depth) hclosing
  | cons p parts => exact ⟨rfl, by simp [tail, ofChars], rfl⟩

end Layout

/-! ### Values -/

namespace Json.Reader

/-- A string begins with its quote, which is neither a blank nor a bracket. -/
theorem starts_written (s : String) : Starts (written s) := ⟨'"', _, rfl, rfl, by decide⟩

/-- A string is read as it is written, where one is expected. -/
theorem reads_stringValue (expected s : String) : Reads (stringValue expected) (written s) s where
  starts := starts_written s
  run ws rest hws _ := by
    show (stringValue expected) (ofChars ws ++ some '"' :: (ofChars _ ++ rest)) = _
    unfold stringValue
    rw [bind_of_ok (peekValue_blank hws rfl _), if_pos rfl, bind_of_ok (skip_cons _ _)]
    exact string_written s rest

/-- A style is read as it is written: a text as a string, and no style as `null`. The blanks in
front are passed before the first character is looked at. -/
theorem reads_optionalString (style : Option String) :
    Reads optionalString (Span.writtenStyle style) style := by
  cases style with
  | none =>
      -- Its first character tells `null` from a string.
      refine ⟨⟨'n', _, rfl, rfl, by decide⟩, fun ws rest hws _ => ?_⟩
      show optionalString (ofChars ws ++ some 'n' :: _) = _
      unfold optionalString
      rw [bind_of_ok (peekToken_blank hws rfl _), if_pos rfl]
      rfl
  | some s =>
      refine ⟨starts_written s, fun ws rest hws hrest => ?_⟩
      have hs := (reads_stringValue "a string" s).run_nil hrest
      show optionalString (ofChars ws ++ some '"' :: _) = _
      unfold optionalString
      rw [bind_of_ok (peekToken_blank hws rfl _), if_neg (by decide)]
      exact bind_of_ok hs

/-- A length of 64 bits is read as it is written. The bound is that of the reader, which would make
a double of a greater number and reject it. -/
theorem reads_lengthValue {n : Nat} (hn : n ≤ greatestWord) :
    Reads lengthValue (Nat.toDigits 10 n) n := by
  obtain ⟨c, ds, hdigits⟩ := List.exists_cons_of_ne_nil (@Nat.toDigits_ne_nil n 10)
  have hc : c.isDigit = true :=
    Nat.isDigit_of_mem_toDigits (b := 10) (n := n) (by decide) (by decide) (by simp [hdigits])
  have hdigit := digit?_of_isDigit hc
  -- No digit is a blank, since a blank would delimit a number.
  have hspace : isSpace (some c) = false := by
    by_contra hspace
    have hnone := (delimited_of_isSpace (Bool.of_not_eq_false hspace) []).digit
    rw [List.head?_cons, hdigit] at hnone
    cases hnone
  have hstarts : Starts (Nat.toDigits 10 n) := by
    refine ⟨c, ds, hdigits, hspace, ?_⟩
    rintro rfl
    cases hc
  refine ⟨hstarts, fun ws rest hws hrest => ?_⟩
  have hnumber := number_digits hn hrest
  rw [hdigits, ofChars_cons, List.cons_append] at hnumber ⊢
  unfold lengthValue
  rw [bind_of_ok (peekValue_blank hws hspace _), if_pos (Or.inr (by rw [hdigit]; rfl)),
    bind_of_ok hnumber]
  rfl

/-! ### Lists -/

variable {α : Type} {element : Reader α} {l : Layout} {depth : Nat} {rest : List Symbol}

/-- The bracket that closes a list delimits a number. -/
theorem delimited_listEnd : Delimited (some ']' :: rest) := ⟨rfl, by simp, rfl⟩

/-- In front of a closing bracket, a list does not go on. -/
theorem hasElement_end {ws : List Char} (hws : Blank ws) (first : Bool) (rest : List Symbol) :
    hasElement first (ofChars ws ++ some ']' :: rest) = .ok (false, some ']' :: rest) := by
  unfold hasElement
  rw [bind_of_ok (peekToken_blank hws rfl rest)]
  rfl

/-- The first element is in front as soon as the blanks are gone. It does not begin with a closing
bracket, by which an empty list is told from it. -/
theorem hasElement_first {ws cs : List Char} (hws : Blank ws) (hcs : Starts cs)
    (rest : List Symbol) :
    hasElement true (ofChars ws ++ (ofChars cs ++ rest)) = .ok (true, ofChars cs ++ rest) := by
  obtain ⟨c, ds, rfl, hspace, hclosing⟩ := hcs
  rw [ofChars_cons, List.cons_append]
  unfold hasElement
  rw [bind_of_ok (peekToken_blank hws hspace _)]
  simp only [↓Char.isValue, Option.some.injEq, hclosing, imp_self, ↓reduceIte]
  rfl

/-- A later element stands behind a comma and blanks. It does not begin with the bracket that would
make the comma a trailing one. -/
theorem hasElement_later {ws cs : List Char} (hws : Blank ws) (hcs : Starts cs)
    (rest : List Symbol) :
    hasElement false (some ',' :: (ofChars ws ++ (ofChars cs ++ rest)))
      = .ok (true, ofChars cs ++ rest) := by
  obtain ⟨c, ds, rfl, hspace, hclosing⟩ := hcs
  rw [ofChars_cons, List.cons_append]
  unfold hasElement
  rw [bind_of_ok (peekToken_cons rfl _)]
  show (skip >>= fun _ => peekToken >>= _) _ = _
  -- Behind the comma, the next symbol is looked at once more.
  rw [bind_of_ok (skip_cons _ _), bind_of_ok (peekToken_blank hws hspace _)]
  simp only [↓Char.isValue, Option.some.injEq, hclosing, imp_self]
  rfl

/-- An element is read, and the rest of the list follows. Whether it is the first one matters only
for what stands in front of it. -/
theorem elements_step {fuel : Nat} {before : List α} {text : List Symbol} {cs : List Char} {a : α}
    (hmore : hasElement before.isEmpty text = .ok (true, ofChars cs ++ rest))
    (ha : Reads element cs a) (hrest : Delimited rest) :
    elements element (fuel + 1) before text = elements element fuel (a :: before) rest := by
  rw [elements, bind_of_ok hmore, if_pos rfl]
  exact bind_of_ok (ha.run_nil hrest)

/-- The first element of a list, with its gap. -/
theorem elements_first {fuel : Nat} {ws cs : List Char} {a : α} (hws : Blank ws)
    (ha : Reads element cs a) (hrest : Delimited rest) :
    elements element (fuel + 1) [] (ofChars ws ++ (ofChars cs ++ rest))
      = elements element fuel [a] rest :=
  elements_step (hasElement_first hws ha.starts rest) ha hrest

/-- A later element of a list, with its comma and its gap. -/
theorem elements_later {fuel : Nat} {b : α} {before : List α} {ws cs : List Char} {a : α}
    (hws : Blank ws) (ha : Reads element cs a) (hrest : Delimited rest) :
    elements element (fuel + 1) (b :: before) (some ',' :: (ofChars ws ++ (ofChars cs ++ rest)))
      = elements element fuel (a :: b :: before) rest :=
  elements_step (hasElement_later hws ha.starts rest) ha hrest

/-- At the closing bracket the elements are put in order again, since they were gathered in
reverse. -/
theorem elements_end {fuel : Nat} {before : List α} {ws : List Char} (hws : Blank ws) :
    elements element (fuel + 1) before (ofChars ws ++ some ']' :: rest)
      = .ok (before.reverse, some ']' :: rest) := by
  rw [elements]
  exact bind_of_ok (hasElement_end hws _ rest)

/-- The parts of a list after the first one are read as they are written. The induction is on the
parts together with their values, and each part uses one unit of the fuel. -/
theorem elements_tail (hl : l.Sound) {parts : List (List Char)} {as : List α}
    (h : List.Forall₂ (Reads element) parts as) (fuel : Nat)
    (hfuel : (l.tail depth parts).length < fuel) (b : α) (before : List α) :
    elements element fuel (b :: before)
        (ofChars (l.tail depth parts) ++ (ofChars (l.gap depth) ++ some ']' :: rest))
      = .ok ((b :: before).reverse ++ as, some ']' :: rest) := by
  induction h generalizing fuel b before with
  | nil =>
      obtain ⟨fuel, rfl⟩ := Nat.exists_eq_add_one.mpr hfuel
      rw [List.append_nil]
      exact elements_end (hl.gap depth)
  | @cons p a parts as hp _ ih =>
      -- A part is longer than nothing, so there is fuel left for the rest.
      rw [Layout.length_tail_cons] at hfuel
      obtain ⟨fuel, rfl⟩ : ∃ n, fuel = n + 1 := Nat.exists_eq_add_one.mpr (by omega)
      rw [Layout.tail_cons,
        elements_later (hl.gap _) hp (Layout.delimited_tail hl parts delimited_listEnd),
        ih fuel (by omega), List.reverse_cons, List.append_assoc, List.singleton_append]

/-- The closing bracket is taken as the end of the list. -/
theorem listEnd_closing (rest : List Symbol) : listEnd (some ']' :: rest) = .ok ((), rest) := by
  unfold listEnd
  rw [bind_of_ok (peekToken_cons rfl rest)]
  rfl

/-- The elements of a list are read as they are written, from the opening bracket up to the closing
one, which is left. -/
theorem elements_body (hl : l.Sound) (depth : Nat) {parts : List (List Char)} {as : List α}
    (h : List.Forall₂ (Reads element) parts as) (fuel : Nat)
    (hfuel : (l.body depth ']' parts).length < fuel) (rest : List Symbol) :
    elements element fuel [] (ofChars (l.body depth ']' parts) ++ rest)
      = .ok (as, some ']' :: rest) := by
  -- Nothing but the end stands in a list without elements. Otherwise the first element is read
  -- without a comma, and the others with one each.
  cases h with
  | nil =>
      obtain ⟨fuel, rfl⟩ : ∃ n, fuel = n + 1 := Nat.exists_eq_add_one.mpr (by omega)
      exact elements_end blank_nil
  | @cons p a parts as hp h =>
      simp only [Layout.body, List.length_append, List.length_singleton] at hfuel
      obtain ⟨fuel, rfl⟩ : ∃ n, fuel = n + 1 := Nat.exists_eq_add_one.mpr (by omega)
      rw [Layout.body_cons,
        elements_first (hl.gap _) hp (Layout.delimited_tail hl parts delimited_listEnd),
        elements_tail hl h fuel (by omega)]
      rfl

/-- A list is read as it is written, if each of its elements is. The fuel is the length of the text,
which is more than there can be elements. -/
theorem reads_listValue (hl : l.Sound) {parts : List (List Char)} {as : List α}
    (h : List.Forall₂ (Reads element) parts as) :
    Reads (listValue element) (l.list depth parts) as where
  starts := ⟨'[', _, l.bracketed_eq depth '[' ']' parts, rfl, by decide⟩
  run ws rest hws _ := by
    have helements := elements_body hl depth h _ (length_lt_ofChars_append _ rest) rest
    rw [Layout.list, Layout.bracketed_eq, ofChars_cons, List.cons_append]
    unfold listValue
    rw [bind_of_ok (peekValue_blank hws rfl _), if_pos rfl, bind_of_ok (skip_cons _ _),
      bind_of_ok (x := fun rest => elements element (rest.length + 1) [] rest) helements,
      bind_of_ok (listEnd_closing rest)]
    rfl

end Json.Reader

end Highlight
