import Highlight.Regex.Machine

/-!
# `Highlight.Regex.Search`: the leftmost match

`Program.search` tries the positions of a text from left to right, and yields the match found
at the first position where there is one. An attempt without an answer ends the search. It is one
that uses up its fuel, or one that is broken off by the pattern (`Node.halt`).

The fuel is not the limit of the engine that the patterns are written for. That engine counts how
often an attempt takes back a choice, and its limit is much lower. A search that goes beyond the
limit has no answer there, while it may still have one here.
-/

set_option autoImplicit false

namespace Highlight.Regex

/-- A match of a pattern in a text. -/
structure Match where
  /-- Where the reported match begins -/
  start : Nat
  /-- Where the match ends -/
  stop : Nat
  /-- The state of the machine, from which the groups are read -/
  state : State
  deriving Repr

namespace Match

/-- The match that a state stands for. It does not begin after its end. -/
def ofState (st : State) : Match :=
  ⟨min st.start st.pos, st.pos, st⟩

/-- Whether a group took part in the match. -/
def has (m : Match) (g : Nat) : Bool :=
  (m.state.span? g).isSome

end Match

/-- The result of a search. -/
inductive SearchResult where
  | found (m : Match)
  /-- No match -/
  | missing
  /-- An attempt has no answer: it took too long, or the pattern broke it off -/
  | exhausted
  deriving Repr

namespace Program

/-- The number of moves allowed for one attempt. It only keeps an attempt from going on forever. -/
def attemptFuel : Nat := 1000000000000

/-- The state at the start of an attempt. -/
def initialState (text : Array Char) (i : Nat) : State :=
  { pos := i, limit := text.size, start := i, trace := [], depth := 0, counts := [] }

/-- Tries to match at one position. -/
def attempt (p : Program) (text : Array Char) (searchStart i : Nat) : Outcome :=
  Setting.run ⟨p, text, searchStart⟩ attemptFuel [.node p.body] (initialState text i) []

/-- Tries `n` positions from `i` on. -/
def searchFrom (p : Program) (text : Array Char) (searchStart : Nat) :
    Nat → Nat → SearchResult
  | 0, _ => .missing
  | n + 1, i =>
    match p.attempt text searchStart i with
    | .matched st => .found (.ofState st)
    | .exhausted => .exhausted
    | _ => searchFrom p text searchStart n (i + 1)

/-- The leftmost match from a position on. -/
def search (p : Program) (text : Array Char) (start : Nat) : SearchResult :=
  p.searchFrom text start (text.size + 1 - start) start

end Program

end Highlight.Regex
