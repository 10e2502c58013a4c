import Highlight.Json.Value
import Mathlib.Data.List.Basic

/-!
# `Highlight.Proofs.Json.Reader`: what a reader takes

A reader takes what it needs from the front of a text. `Reader.Reads` says what it makes of a text
that was written for it: it skips the blanks in front, takes the text, and leaves what follows.
Since a number has no end of its own, what follows must not go on with it (`Delimited`).

Readers are made with `>>=`, and `bind_of_ok` runs the first part of one.
-/

set_option autoImplicit false

namespace Highlight.Json

namespace Symbol

/-- The symbols of a text are those of its parts. -/
theorem ofChars_append (cs ds : List Char) : ofChars (cs ++ ds) = ofChars cs ++ ofChars ds :=
  List.map_append

/-- The symbols of a text begin with that of its first character. -/
theorem ofChars_cons (c : Char) (cs : List Char) : ofChars (c :: cs) = some c :: ofChars cs :=
  rfl

/-- The length of a text suffices as fuel for the part of it in front. Readers with a loop take the
length of what is left as their fuel, and one more. -/
theorem length_lt_ofChars_append (cs : List Char) (rest : List Symbol) :
    cs.length < (ofChars cs ++ rest).length + 1 := by
  rw [List.length_append, ofChars, List.length_map]
  omega

end Symbol

open Highlight.Json.Symbol

/-- A text of white space only. The empty text is one as well. -/
def Blank (cs : List Char) : Prop := ∀ c ∈ cs, Reader.isSpace (some c) = true

/-- Nothing is between two parts in the compact layout. -/
theorem blank_nil : Blank [] := fun _ h => absurd h List.not_mem_nil

namespace Reader

variable {α β : Type} {rest rest' : List Symbol} {a : α}

/-- If the first of two readers succeeds, the second goes on with its value where it has stopped.
With this rule a run is followed symbol by symbol, without unfolding what a reader is. -/
theorem bind_of_ok {x : Reader α} {k : α → Reader β} (h : x rest = .ok (a, rest')) :
    (x >>= k) rest = k a rest' := by
  show x rest >>= _ = _
  rw [h]
  rfl

/-- The first symbol is dropped. -/
theorem skip_cons (s : Symbol) (rest : List Symbol) : skip (s :: rest) = .ok ((), rest) := rfl

/-- The next symbol is looked at, and nothing is taken. -/
theorem peek_eq (rest : List Symbol) : peek rest = .ok (rest.head?, rest) := rfl

/-- Blanks in front are dropped, together with those that follow them. -/
theorem dropWhile_blank {ws : List Char} (h : Blank ws) (rest : List Symbol) :
    (ofChars ws ++ rest).dropWhile isSpace = rest.dropWhile isSpace := by
  induction ws with
  | nil => rfl
  | cons c ws ih =>
      rw [ofChars_cons, List.cons_append, List.dropWhile_cons_of_pos (h c List.mem_cons_self)]
      exact ih fun d hd => h d (List.mem_cons_of_mem c hd)

/-- The next symbol after blanks is looked at, and the blanks are gone. The symbol is no blank
itself, so it is clear where they end. -/
theorem peekToken_blank {ws : List Char} (h : Blank ws) {s : Symbol} (hs : isSpace s = false)
    (rest : List Symbol) :
    peekToken (ofChars ws ++ s :: rest) = .ok (some s, s :: rest) := by
  unfold peekToken
  rw [dropWhile_blank h, List.dropWhile_cons_of_neg (by simp [hs])]
  rfl

/-- Without blanks in front, the next symbol is looked at in the same way. -/
theorem peekToken_cons {s : Symbol} (hs : isSpace s = false) (rest : List Symbol) :
    peekToken (s :: rest) = .ok (some s, s :: rest) :=
  peekToken_blank blank_nil hs rest

/-- The first symbol of a value is found behind blanks. -/
theorem peekValue_blank {ws : List Char} (h : Blank ws) {s : Symbol} (hs : isSpace s = false)
    (rest : List Symbol) :
    peekValue (ofChars ws ++ s :: rest) = .ok (s, s :: rest) := by
  unfold peekValue
  rw [bind_of_ok (peekToken_blank h hs rest)]
  rfl

/-! ### Readers and what is written for them -/

/-- A number does not go on with what is left: no digit comes next, no point and no exponent. It is
needed since nothing else marks the end of a number. -/
structure Delimited (rest : List Symbol) : Prop where
  digit : digit? rest.head? = none
  point : rest.head? ≠ some (some '.')
  exponent : isExponentMark rest.head? = false

/-- The end of the text delimits a number. -/
theorem delimited_nil : Delimited [] := ⟨rfl, nofun, rfl⟩

/-- A blank delimits a number, since it is none of the symbols that go on with one. -/
theorem delimited_of_isSpace {c : Char} (hc : isSpace (some c) = true) (rest : List Symbol) :
    Delimited (some c :: rest) := by
  have hc : ((c = ' ' ∨ c = '\n') ∨ c = '\t') ∨ c = '\r' := by simpa [isSpace] using hc
  rcases hc with ((rfl | rfl) | rfl) | rfl <;> exact ⟨rfl, by simp, rfl⟩

/-- Blanks delimit a number. If there are none, what follows them has to do so. -/
theorem delimited_blank {ws : List Char} (hws : Blank ws) (h : Delimited rest) :
    Delimited (ofChars ws ++ rest) := by
  -- Only the first symbol counts: what follows if there is no blank, and a blank otherwise.
  cases ws with
  | nil => exact h
  | cons c ws => exact delimited_of_isSpace (hws c List.mem_cons_self) _

/-- A text can stand for a value in a list: it begins with neither a blank nor a bracket that closes
the list. A reader of a list could not tell otherwise where the value begins. -/
def Starts (cs : List Char) : Prop :=
  ∃ c ds, cs = c :: ds ∧ isSpace (some c) = false ∧ c ≠ ']'

/-- A reader makes a value of a text, with blanks in front of it and whatever may follow. The text
and the blanks are taken, and what follows is left. -/
structure Reads (r : Reader α) (cs : List Char) (a : α) : Prop where
  starts : Starts cs
  run : ∀ ws rest, Blank ws → Delimited rest →
    r (ofChars ws ++ (ofChars cs ++ rest)) = .ok (a, rest)

/-- Without blanks in front, the text is read as well. -/
theorem Reads.run_nil {r : Reader α} {cs : List Char} (h : Reads r cs a) (hrest : Delimited rest) :
    r (ofChars cs ++ rest) = .ok (a, rest) :=
  h.run [] rest blank_nil hrest

/-- A written text is read as a whole, with blanks after it. Nothing else is left, so it does not
matter how the text is read. -/
theorem run_written {r : Reader α} {cs : List Char} (h : Reads r cs a) {ws : List Char}
    (hws : Blank ws) (source : Source) : r.run source (ofChars (cs ++ ws)) = .ok a := by
  have hdelimited : Delimited (ofChars ws) := by
    rw [← List.append_nil (ofChars ws)]
    exact delimited_blank hws delimited_nil
  -- The blanks at the end are all that is left, and then the text has ended.
  have hend : textEnd (ofChars ws) = .ok ((), []) := by
    have hdrop := dropWhile_blank hws []
    rw [List.append_nil] at hdrop
    unfold textEnd
    rw [bind_of_ok (show peekToken (ofChars ws) = .ok (none, []) by rw [peekToken, hdrop]; rfl)]
    rfl
  unfold run
  rw [ofChars_append, bind_of_ok (h.run_nil hdelimited), bind_of_ok hend]
  rfl

/-- A reader makes of a text what another one does, and a function of that. -/
theorem Reads.map {r : Reader α} {cs : List Char} (h : Reads r cs a) (f : α → β) :
    Reads (do return f (← r)) cs (f a) where
  starts := h.starts
  run ws rest hws hrest := by
    rw [bind_of_ok (h.run ws rest hws hrest)]
    rfl

end Reader

end Highlight.Json
