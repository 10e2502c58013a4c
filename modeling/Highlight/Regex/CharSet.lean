import Highlight.Unicode.Fold
import Highlight.Unicode.Property

/-!
# `Highlight.Regex.CharSet`: sets of characters

A character class, a class escape such as `\w` and the dot all denote a set of characters.
`CharSet` is the algebra they are built from, and `CharSet.mem` decides membership of a code
point.
-/

set_option autoImplicit false

namespace Highlight.Regex

open Highlight.Unicode

/-- A set of code points. -/
inductive CharSet where
  /-- No code point -/
  | none
  /-- The code points from `lo` to `hi`, both included -/
  | range (lo hi : Nat)
  /-- The code points with a property, the ASCII ones alone if `asciiOnly` -/
  | property (p : Property) (asciiOnly : Bool)
  /-- The code points of either set -/
  | union (a b : CharSet)
  /-- The code points of both sets -/
  | inter (a b : CharSet)
  /-- The code points outside a set -/
  | compl (a : CharSet)
  /-- The code points that differ from one of the set in case only -/
  | folded (a : CharSet)
  deriving DecidableEq, Repr

namespace CharSet

/-- Whether the code point belongs to the set. -/
def mem : CharSet → Nat → Bool
  | none, _ => false
  | range lo hi, c => decide (lo ≤ c) && decide (c ≤ hi)
  | property p asciiOnly, c => (!asciiOnly || decide (c < 0x80)) && p.holds c
  | union a b, c => a.mem c || b.mem c
  | inter a b, c => a.mem c && b.mem c
  | compl a, c => !a.mem c
  | folded a, c => (variants c).any a.mem

/-- The set of one character. -/
def single (c : Char) : CharSet :=
  range c.toNat c.toNat

/-- Every code point. -/
def all : CharSet :=
  range 0 0x10FFFF

/-- Every code point but the newline. -/
def notNewline : CharSet :=
  compl (single '\n')

/-- The complement of a set if `negated`, else the set itself. -/
def negateIf (negated : Bool) (s : CharSet) : CharSet :=
  if negated then compl s else s

/-- The code points of any of the given sets. -/
def unions (sets : List CharSet) : CharSet :=
  match sets with
  | [] => none
  | [s] => s
  | s :: rest => union s (unions rest)

end CharSet

end Highlight.Regex
