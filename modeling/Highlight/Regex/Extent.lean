import Highlight.Regex.Node

/-!
# `Highlight.Regex.Extent`: how much text a pattern can match

* `leastLength table fuel active n` is a lower bound for the number of characters that `n`
  matches.
* `Extent.of table fuel active n` is the range of that number, with a note whether the lower
  end is certain. It is uncertain where it depends on a test of the position.

`table` gives the body of each group. Calls and back references are followed into it, but not
into the `active` groups, which are being followed already. Nothing is assumed of these, nor
of what lies more than `fuel` deep.
-/

set_option autoImplicit false

namespace Highlight.Regex

/-- The bodies of the groups of a pattern. -/
abbrev GroupTable := Nat → Option Node

/-- A lower bound for the number of characters that a node matches. -/
def leastLength (table : GroupTable) : Nat → List Nat → Node → Nat
  | 0, _, _ => 0
  | fuel + 1, active, n =>
    match n with
    | .impossible | .set _ | .cluster => 1
    | .literal cs fold => if fold then (if cs.isEmpty then 0 else 1) else cs.length
    | .seq a b => leastLength table fuel active a + leastLength table fuel active b
    | .alt a b => min (leastLength table fuel active a) (leastLength table fuel active b)
    | .many body least _ _ => least * leastLength table fuel active body
    | .scope body | .atomic body => leastLength table fuel active body
    | .capture g body =>
      if active.contains g then 0 else leastLength table fuel (g :: active) body
    | .cond test yes no =>
      min (leastLength table fuel active test + leastLength table fuel active yes)
        (leastLength table fuel active no)
    | .call g =>
      if active.contains g then 0
      else
        match table g with
        | some body => leastLength table fuel (g :: active) body
        | none => 0
    | .absentIn _ inner => leastLength table fuel active inner
    | _ => 0

/-- The range of the number of characters that a node matches. -/
structure Extent where
  /-- The least number -/
  least : Nat
  /-- The greatest number, if there is one -/
  most : Option Nat
  /-- Whether the least number does not depend on a test of the position -/
  certain : Bool
  deriving DecidableEq, Repr

namespace Extent

/-- Always the same number. -/
def exactly (n : Nat) : Extent := ⟨n, some n, true⟩

/-- No character, but only at some positions. -/
def test : Extent := ⟨0, some 0, false⟩

/-- Whether the number is always the same. -/
def isFixed (e : Extent) : Bool :=
  e.most == some e.least

/-- One after the other. -/
def add (a b : Extent) : Extent where
  least := a.least + b.least
  most := match a.most, b.most with
    | some m, some n => some (m + n)
    | _, _ => none
  certain := a.certain && b.certain

/-- One or the other. -/
def join (a b : Extent) : Extent where
  least := min a.least b.least
  most := match a.most, b.most with
    | some m, some n => some (max m n)
    | _, _ => none
  -- What is less decides, and of two that are equal one is enough.
  certain :=
    if a.least < b.least then a.certain
    else if b.least < a.least then b.certain
    else a.certain || b.certain

/-- Several times. -/
def times (e : Extent) (least : Nat) (most : Option Nat) : Extent where
  least := e.least * least
  most := match e.most, most with
    | _, some 0 => some 0
    | some 0, _ => some 0
    | some m, some n => some (m * n)
    | _, _ => none
  certain := e.certain || least == 0

/-- Nothing is known. -/
def unknown : Extent := ⟨0, none, false⟩

/-- The extent of a node. -/
def of (table : GroupTable) : Nat → List Nat → Node → Extent
  | 0, _, _ => unknown
  | fuel + 1, active, n =>
    match n with
    | .empty => exactly 0
    | .impossible | .set _ => exactly 1
    | .literal cs _ => exactly cs.length
    | .seq a b => (of table fuel active a).add (of table fuel active b)
    | .alt a b => (of table fuel active a).join (of table fuel active b)
    | .many body least most _ => (of table fuel active body).times least most
    | .scope body | .atomic body => of table fuel active body
    | .capture g body =>
      if active.contains g then unknown else of table fuel (g :: active) body
    | .ahead _ _ | .behind _ _ _ | .anchor _ | .keep | .isSet _ _ | .checkpoint _ _
    | .abandon | .halt => test
    | .backref groups _ _ =>
      -- The text of a group is as long as the group, and certainly so if that length is fixed.
      let one (g : Nat) : Extent :=
        if active.contains g then unknown
        else
          match table g with
          | some body =>
            let e := of table fuel (g :: active) body
            { e with certain := e.certain && e.isFixed }
          | none => test
      match groups with
      | [] => test
      | g :: gs => gs.foldl (fun e h => e.join (one h)) (one g)
    | .call g =>
      if active.contains g then unknown
      else
        match table g with
        | some body => of table fuel (g :: active) body
        | none => test
    | .cond t yes no =>
      { ((of table fuel active t).add (of table fuel active yes)).join (of table fuel active no) with
        certain := false }
    | .cluster => ⟨1, none, true⟩
    -- Nothing at all is always without an occurrence of the body.
    | .absent _ => ⟨0, none, true⟩
    | .absentIn _ inner => of table fuel active inner
    | .absentCut _ | .absentClear => test

end Extent

end Highlight.Regex
