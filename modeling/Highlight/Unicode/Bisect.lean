/-!
# `Highlight.Unicode.Bisect`: look-up in tables sorted by code point

* `bisect p n` counts the leading positions below `n` at which `p` holds. It is exact when
  `p` holds up to some position and fails from there on.
* `lastRun? runs c` is the value of the last run that starts at or before `c`.
* `inRanges ranges c` says whether `c` lies in one of the inclusive ranges.
-/

set_option autoImplicit false

namespace Highlight.Unicode

/-- One step of `bisect` per bit: `base` positions are known to satisfy `p`, and the answer
lies below `base + 2 ^ bits`. -/
def bisectFrom (p : Nat → Bool) (n : Nat) : Nat → Nat → Nat
  | 0, base => base
  | bits + 1, base =>
    let next := base + 2 ^ bits
    if decide (next ≤ n) && p (next - 1) then bisectFrom p n bits next
    else bisectFrom p n bits base

/-- The number of leading positions below `n` at which `p` holds. -/
def bisect (p : Nat → Bool) (n : Nat) : Nat :=
  bisectFrom p n (n.log2 + 1) 0

/-- The value of the last run that starts at or before `c`. -/
def lastRun? {α : Type} (runs : Array (Nat × α)) (c : Nat) : Option α :=
  let startsBefore (i : Nat) : Bool :=
    match runs[i]? with
    | some (first, _) => decide (first ≤ c)
    | none => false
  match bisect startsBefore runs.size with
  | 0 => none
  | k + 1 => runs[k]?.map (·.2)

/-- Whether `c` lies in one of the inclusive ranges, which are in ascending order. -/
def inRanges (ranges : Array (Nat × Nat)) (c : Nat) : Bool :=
  let startsBefore (i : Nat) : Bool :=
    match ranges[i]? with
    | some (first, _) => decide (first ≤ c)
    | none => false
  match bisect startsBefore ranges.size with
  | 0 => false
  | k + 1 =>
    match ranges[k]? with
    | some (_, last) => decide (c ≤ last)
    | none => false

end Highlight.Unicode
