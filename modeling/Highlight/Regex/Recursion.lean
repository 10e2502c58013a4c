import Highlight.Regex.Extent

/-!
# `Highlight.Regex.Recursion`: groups that call themselves without end

A group that calls itself needs a way to match without doing so, and must consume something
before it does so. `isEndless` finds the groups for which one of these fails.
-/

set_option autoImplicit false

namespace Highlight.Regex.Recursion

/-- How a node leads back to the group under test. -/
structure Trace where
  /-- Every way through the node does -/
  must : Bool
  /-- Some way does before anything is consumed -/
  atHead : Bool
  deriving DecidableEq, Repr

/-- No way leads back. -/
def none : Trace := ⟨false, false⟩

/-- Follows a node. `target` is the group under test, `active` are the groups that are being
followed, and `head` says that nothing has been consumed yet. -/
def follow (table : GroupTable) (target : Nat) :
    Nat → List Nat → Bool → Node → Trace
  | 0, _, _, _ => none
  | fuel + 1, active, head, n =>
    -- A group that is being followed is not followed again, unless it is the one under test.
    let enter (g : Nat) (body : Node) : Trace :=
      if active.contains g then none
      else if g = target then ⟨true, head⟩
      else follow table target fuel (g :: active) head body
    match n with
    | .seq a b =>
      let x := follow table target fuel active head a
      -- After something that consumes, `b` is no longer at the head.
      let y := follow table target fuel active (head && leastLength table fuel [] a == 0) b
      ⟨x.must || y.must, x.atHead || y.atHead⟩
    | .alt a b =>
      let x := follow table target fuel active head a
      let y := follow table target fuel active head b
      ⟨x.must && y.must, x.atHead || y.atHead⟩
    | .many body least most _ =>
      if most = some 0 then none
      else
        let x := follow table target fuel active head body
        ⟨x.must && least != 0, x.atHead⟩
    | .scope body | .atomic body | .ahead _ body | .behind _ _ body =>
      follow table target fuel active head body
    | .capture g body => enter g body
    | .call g =>
      match table g with
      | some body => enter g body
      | Option.none => none
    | .cond t yes no =>
      let x := follow table target fuel active head t
      let y := follow table target fuel active (head && leastLength table fuel [] t == 0) yes
      let z := follow table target fuel active head no
      ⟨(x.must || y.must) && z.must, x.atHead || y.atHead || z.atHead⟩
    | .absent body => follow table target fuel active head body
    | .absentIn body inner =>
      let x := follow table target fuel active head body
      let y := follow table target fuel active head inner
      ⟨x.must || y.must, x.atHead || y.atHead⟩
    | _ => none

/-- Whether the group calls itself without end. -/
def isEndless (table : GroupTable) (fuel : Nat) (group : Nat) : Bool :=
  match table group with
  | some body =>
    let t := follow table group fuel [] true body
    t.must || t.atHead
  | Option.none => false

end Highlight.Regex.Recursion
