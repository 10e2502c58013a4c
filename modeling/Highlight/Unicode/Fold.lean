import Highlight.Unicode.Bisect
import Highlight.Unicode.CaseMap

/-!
# `Highlight.Unicode.Fold`: comparison without regard to case

* `fold c` is the full case folding of the code point `c`, one to three code points long.
* `variants c` lists the code points with the same folding as `c`, `c` itself among them.
* `Shift.image?` and `Shift.preimage?` apply one table row forwards and backwards.
-/

set_option autoImplicit false

namespace Highlight.Unicode

namespace Shift

/-- Where the shift moves `c`, if `c` belongs to its run. -/
def image? (s : Shift) (c : Nat) : Option Nat :=
  if s.first ≤ c ∧ c ≤ s.last ∧ (c - s.first) % s.stride = 0 then
    some (s.target + (c - s.first))
  else none

/-- The code point of the run that is moved to `d`. -/
def preimage? (s : Shift) (d : Nat) : Option Nat :=
  if s.target ≤ d ∧ d - s.target ≤ s.last - s.first ∧ (d - s.target) % s.stride = 0 then
    some (s.first + (d - s.target))
  else none

end Shift

/-- The image of `c` under a table of shifts in ascending order. -/
def shifted? (table : Array Shift) (c : Nat) : Option Nat :=
  let startsBefore (i : Nat) : Bool :=
    match table[i]? with
    | some s => decide (s.first ≤ c)
    | none => false
  match bisect startsBefore table.size with
  | 0 => none
  | k + 1 => table[k]?.bind (·.image? c)

/-- The folding of `c` if it is more than one code point long. -/
def longFold? (c : Nat) : Option (List Nat) :=
  if c < 0xDF then none
  else
    let startsBefore (i : Nat) : Bool :=
      match CaseMap.longFolds[i]? with
      | some (first, _) => decide (first ≤ c)
      | none => false
    match bisect startsBefore CaseMap.longFolds.size with
    | 0 => none
    | k + 1 =>
      match CaseMap.longFolds[k]? with
      | some (first, target) => if first = c then some target else none
      | none => none

/-- The full case folding of a code point. -/
def fold (c : Nat) : List Nat :=
  if c < 0x80 then [if 0x41 ≤ c ∧ c ≤ 0x5A then c + 0x20 else c]
  else
    match longFold? c with
    | some target => target
    | none => [(shifted? CaseMap.folds c).getD c]

/-- The code points that fold to the given sequence, apart from a sequence of one code point
itself. -/
def unfolds : List Nat → List Nat
  | [d] => CaseMap.folds.toList.filterMap (·.preimage? d)
  | target => CaseMap.longFolds.toList.filterMap fun entry =>
      if entry.2 = target then some entry.1 else none

/-- The code points that cannot be told from `c` once case is ignored. -/
def variants (c : Nat) : List Nat :=
  match fold c with
  | [d] => d :: unfolds [d]
  | target => unfolds target

end Highlight.Unicode
