import Highlight.Json.Record
import Highlight.Proofs.Json.Layout

/-!
# `Highlight.Proofs.Json.Record`: records come back from objects

The members of an object fill in the fields of a record one after another. `Record.Takes` says that
they may do so: each key is that of a field which has not been read yet, and the value is what its
reader is for. `Record.reads_object` is the main statement. An object is read as the record that its
members lead to, whatever the layout, if no field that an object must have is left over.
-/

set_option autoImplicit false

namespace Highlight

open Json Json.Symbol Json.Reader

/-! ### Between the members of an object -/

namespace Json.Reader

variable {l : Layout} {rest : List Symbol}

/-- The bracket that closes an object delimits a number. -/
theorem delimited_objectEnd : Delimited (some '\x7d' :: rest) := ⟨rfl, by simp, rfl⟩

/-- The closing bracket is taken as the end of the object. -/
theorem objectEnd_closing (rest : List Symbol) :
    objectEnd (some '\x7d' :: rest) = .ok ((), rest) := by
  unfold objectEnd
  rw [bind_of_ok (peekToken_cons rfl rest)]
  rfl

/-- In front of a closing bracket, an object does not go on. -/
theorem hasMember_end {ws : List Char} (hws : Blank ws) (first : Bool) (rest : List Symbol) :
    hasMember first (ofChars ws ++ some '\x7d' :: rest) = .ok (false, some '\x7d' :: rest) := by
  unfold hasMember
  rw [bind_of_ok (peekToken_blank hws rfl rest)]
  rfl

/-- The first key is in front as soon as the blanks are gone. -/
theorem hasMember_first {ws : List Char} (hws : Blank ws) (rest : List Symbol) :
    hasMember true (ofChars ws ++ some '"' :: rest) = .ok (true, some '"' :: rest) := by
  unfold hasMember
  rw [bind_of_ok (peekToken_blank hws rfl rest)]
  rfl

/-- A later key stands behind a comma and blanks. After the comma the reader does not accept the end
of the object. -/
theorem hasMember_later {ws : List Char} (hws : Blank ws) (rest : List Symbol) :
    hasMember false (some ',' :: (ofChars ws ++ some '"' :: rest))
      = .ok (true, some '"' :: rest) := by
  unfold hasMember
  rw [bind_of_ok (peekToken_cons rfl _)]
  show (skip >>= fun _ => peekToken >>= _) _ = _
  -- Behind the comma, the quote of the key is looked at once more.
  rw [bind_of_ok (skip_cons _ _), bind_of_ok (peekToken_blank hws rfl rest)]
  rfl

/-- The colon of a layout is read, and at most blanks are left of it. They are dropped with those in
front of the value. -/
theorem colon_written (hl : l.Sound) (rest : List Symbol) :
    ∃ ws, Blank ws ∧ colon (ofChars l.colon ++ rest) = .ok ((), ofChars ws ++ rest) := by
  obtain ⟨ws, hws, hcolon⟩ := hl.colon
  refine ⟨ws, hws, ?_⟩
  rw [hcolon, ofChars_cons, List.cons_append]
  unfold colon
  rw [bind_of_ok (peekToken_cons rfl _)]
  rfl

end Json.Reader

/-! ### Members that fill in fields -/

namespace Json.Record

variable {σ : Type} {r : Record σ} {l : Layout} {depth : Nat} {rest text : List Symbol}
  {ms : List (String × List Char)} {a b c : σ} {key : String} {value : List Char}

/-- A member takes a record from one state to another. Its key is that of a field, this field has
not been read yet, and the value is one that its reader makes the next state of. -/
def TakesOne (r : Record σ) (key : String) (value : List Char) (a b : σ) : Prop :=
  ∃ f, r.fields.find? (fun f => f.name == key) = some f ∧ f.isSet a = false ∧
    Reads (f.read a) value b

/-- The members of an object, one after another, take a record from one state to another. They may
come in any order, and need not be all the fields of the record. -/
inductive Takes (r : Record σ) : List (String × List Char) → σ → σ → Prop where
  | nil (a : σ) : Takes r [] a a
  | cons {key : String} {value : List Char} {ms : List (String × List Char)} {a b c : σ}
      (first : r.TakesOne key value a b) (later : Takes r ms b c) : Takes r ((key, value) :: ms) a c

/-- One member is read: its key, the colon and its value. Whether it is the first one matters only
for what stands in front of it. -/
theorem members_step (hl : l.Sound) {first : Bool} {fuel : Nat}
    (hmore : hasMember first text = .ok (true, ofChars (l.member key value) ++ rest))
    (h : r.TakesOne key value a b) (hrest : Delimited rest) :
    r.members (fuel + 1) first a text = r.members fuel false b rest := by
  obtain ⟨f, hfield, hset, hread⟩ := h
  obtain ⟨ws, hws, hcolon⟩ := colon_written hl (ofChars value ++ rest)
  -- The member is taken apart into the pieces that the reader takes.
  have hmember : ofChars (l.member key value) ++ rest
      = some '"' :: (ofChars (key.toList.flatMap escaped ++ ['"'])
        ++ (ofChars l.colon ++ (ofChars value ++ rest))) := by
    simp [Layout.member, written, ofChars]
  rw [members, bind_of_ok hmore, if_pos rfl, hmember, bind_of_ok (skip_cons _ _),
    bind_of_ok (string_written key _)]
  simp only [hfield, hset, Bool.false_eq_true, if_false]
  rw [bind_of_ok hcolon, bind_of_ok (hread.run ws rest hws hrest)]

/-- The first member of an object, with its gap. -/
theorem members_first (hl : l.Sound) {fuel : Nat} {ws : List Char} (hws : Blank ws)
    (h : r.TakesOne key value a b) (hrest : Delimited rest) :
    r.members (fuel + 1) true a (ofChars ws ++ (ofChars (l.member key value) ++ rest))
      = r.members fuel false b rest :=
  members_step hl (hasMember_first hws _) h hrest

/-- A later member of an object, with its comma and its gap. -/
theorem members_later (hl : l.Sound) {fuel : Nat} {ws : List Char} (hws : Blank ws)
    (h : r.TakesOne key value a b) (hrest : Delimited rest) :
    r.members (fuel + 1) false a
        (some ',' :: (ofChars ws ++ (ofChars (l.member key value) ++ rest)))
      = r.members fuel false b rest :=
  members_step hl (hasMember_later hws _) h hrest

/-- No field that an object must have is left over. It is asked only at the end of the object. -/
def Complete (r : Record σ) (a : σ) : Prop :=
  r.fields.find? (fun f => f.inObject && !f.isSet a) = none

/-- At the closing bracket a complete record is the value of the object. -/
theorem members_end {ws : List Char} (hws : Blank ws) (ha : r.Complete a) (fuel : Nat)
    (first : Bool) (rest : List Symbol) :
    r.members (fuel + 1) first a (ofChars ws ++ some '\x7d' :: rest)
      = .ok (a, some '\x7d' :: rest) := by
  rw [members, bind_of_ok (hasMember_end hws first rest), if_neg Bool.false_ne_true]
  simp only [show r.fields.find? (fun f => f.inObject && !f.isSet a) = none from ha]
  rfl

/-- The members after the first one are read as they are written. The induction is on the way that
the record takes, and each member uses one unit of the fuel. -/
theorem members_tail (hl : l.Sound) (h : r.Takes ms a c) (hc : r.Complete c) (fuel : Nat)
    (hfuel : (l.tail depth (ms.map fun m => l.member m.1 m.2)).length < fuel) :
    r.members fuel false a (ofChars (l.tail depth (ms.map fun m => l.member m.1 m.2))
        ++ (ofChars (l.gap depth) ++ some '\x7d' :: rest))
      = .ok (c, some '\x7d' :: rest) := by
  induction h generalizing fuel with
  | nil a =>
      obtain ⟨fuel, rfl⟩ := Nat.exists_eq_add_one.mpr hfuel
      exact members_end (hl.gap depth) hc fuel false rest
  | cons hfirst _ ih =>
      -- A member is longer than nothing, so there is fuel left for the rest.
      rw [List.map_cons, Layout.length_tail_cons] at hfuel
      obtain ⟨fuel, rfl⟩ : ∃ n, fuel = n + 1 := Nat.exists_eq_add_one.mpr (by omega)
      rw [List.map_cons, Layout.tail_cons,
        members_later hl (hl.gap _) hfirst (Layout.delimited_tail hl _ delimited_objectEnd),
        ih hc fuel (by omega)]

/-- The members of an object are read as they are written, from the opening bracket up to the
closing one, which is left. -/
theorem members_body (hl : l.Sound) (depth : Nat) (h : r.Takes ms a c) (hc : r.Complete c)
    (fuel : Nat) (hfuel : (l.body depth '\x7d' (ms.map fun m => l.member m.1 m.2)).length < fuel)
    (rest : List Symbol) :
    r.members fuel true a
        (ofChars (l.body depth '\x7d' (ms.map fun m => l.member m.1 m.2)) ++ rest)
      = .ok (c, some '\x7d' :: rest) := by
  obtain ⟨fuel, rfl⟩ : ∃ n, fuel = n + 1 := Nat.exists_eq_add_one.mpr (by omega)
  cases h with
  | nil => exact members_end blank_nil hc fuel true rest
  | cons hfirst h =>
      rw [List.map_cons, Layout.body_cons,
        members_first hl (hl.gap _) hfirst (Layout.delimited_tail hl _ delimited_objectEnd)]
      refine members_tail hl h hc fuel ?_
      simp only [List.map_cons, Layout.body, List.length_append, List.length_singleton] at hfuel
      omega

/-- An object is read as the record that its members lead to, in every sound layout. Nothing is said
of records that were written as lists, since none is. -/
theorem reads_object (hl : l.Sound) (depth : Nat) (h : r.Takes ms r.blank a) (ha : r.Complete a) :
    Reads r.read (l.object depth ms) a where
  starts := ⟨'\x7b', _, l.bracketed_eq depth '\x7b' '\x7d' _, rfl, by decide⟩
  run ws rest hws _ := by
    have hmembers := members_body hl depth h ha _ (length_lt_ofChars_append _ rest) rest
    rw [Layout.object, Layout.bracketed_eq, ofChars_cons, List.cons_append]
    unfold read
    rw [bind_of_ok (peekValue_blank hws rfl _)]
    show (skip >>= _) _ = _
    rw [bind_of_ok (skip_cons _ _),
      bind_of_ok (x := fun rest => r.members (rest.length + 1) true r.blank rest) hmembers,
      bind_of_ok (objectEnd_closing rest)]
    rfl

end Json.Record

end Highlight
