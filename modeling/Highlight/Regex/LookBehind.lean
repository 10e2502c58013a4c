import Highlight.Regex.Error
import Highlight.Regex.Extent

/-!
# `Highlight.Regex.LookBehind`: preparing look-behinds

A look-behind is tried from positions before the current one. `LookBehind.prepare` finds how
far back these positions can be, and rejects look-behinds that hold what they must not:
look-aheads, tests for the end of the text, text that hides other text, and, if negative,
capturing groups.
-/

set_option autoImplicit false

namespace Highlight.Regex.LookBehind

/-- The greatest number of characters to step back over. -/
def maxReach : Nat := 255

/-- Whether the node can stand in a look-behind. -/
def isAllowed (positive : Bool) : Node → Bool
  | .seq a b | .alt a b => isAllowed positive a && isAllowed positive b
  | .many body _ _ _ | .scope body | .atomic body => isAllowed positive body
  | .capture _ body => positive && isAllowed positive body
  | .cond t yes no => isAllowed positive t && isAllowed positive yes && isAllowed positive no
  | .behind _ _ body => isAllowed positive body
  | .ahead _ _ => false
  | .anchor a => !(a == .textEnd || a == .lastLineEnd)
  | .absent body => isAllowed positive body
  | .absentIn body inner => isAllowed positive body && isAllowed positive inner
  | .absentCut _ | .absentClear => false
  | _ => true

/-- Whether the node captures. -/
def captures : Node → Bool
  | .capture _ _ => true
  | .seq a b | .alt a b => captures a || captures b
  | .many body _ _ _ | .scope body | .atomic body => captures body
  | .cond t yes no => captures t || captures yes || captures no
  | .behind _ _ body | .ahead _ body => captures body
  | .absent body => captures body
  | .absentIn body inner => captures body || captures inner
  | _ => false

/-- Compares folded strings character by character, since a look-behind steps back over a
known number of characters. -/
def unfoldLiterals : Node → Node
  | .literal cs true => .ofSeq (cs.map fun c => .set (.folded (.single c)))
  | .seq a b => .seq (unfoldLiterals a) (unfoldLiterals b)
  | .alt a b => .alt (unfoldLiterals a) (unfoldLiterals b)
  | .many body least most greedy => .many (unfoldLiterals body) least most greedy
  | .capture g body => .capture g (unfoldLiterals body)
  | .scope body => .scope (unfoldLiterals body)
  | .atomic body => .atomic (unfoldLiterals body)
  | .cond t yes no => .cond (unfoldLiterals t) (unfoldLiterals yes) (unfoldLiterals no)
  | n => n

/-- The alternatives of a node, in order. -/
def alternatives : Node → List Node
  | .alt a b => a :: alternatives b
  | n => [n]

/-- A look-behind whose body is one alternative. A body that surely can be empty decides the
look-behind on its own. -/
def single (table : GroupTable) (fuel : Nat) (positive : Bool) (body : Node) :
    Except PatternError Node :=
  let e := Extent.of table fuel [] body
  if maxReach < e.least || (e.most.getD 0) > maxReach then .error .lookBehind
  else if e.least == 0 && e.certain && !captures body then
    .ok (if positive then .empty else .never)
  else .ok (.behind positive ⟨e.least, e.most⟩ (unfoldLiterals body))

/-- Prepares a look-behind whose body is prepared. If its alternatives differ in length and
each has a fixed one, each becomes a look-behind of its own. -/
def resolve (table : GroupTable) (fuel : Nat) (positive : Bool) (body : Node) :
    Except PatternError Node := do
  if !isAllowed positive body then .error .lookBehind
  let e := Extent.of table fuel [] body
  if maxReach < e.least || (e.most.getD 0) > maxReach then .error .lookBehind
  else if e.least == 0 && e.certain && !captures body then
    return if positive then .empty else .never
  else
    match alternatives body with
    | _ :: b :: rest =>
      if !e.isFixed && (b :: rest).all fun n => (Extent.of table fuel [] n).isFixed then
        let parts ← (alternatives body).mapM (single table fuel positive)
        return if positive then .ofAlts parts else .ofSeq parts
      else single table fuel positive body
    | _ => single table fuel positive body

/-- Prepares all look-behinds of a node. -/
def prepare (table : GroupTable) (fuel : Nat) : Node → Except PatternError Node
  | .seq a b => return .seq (← prepare table fuel a) (← prepare table fuel b)
  | .alt a b => return .alt (← prepare table fuel a) (← prepare table fuel b)
  | .many body least most greedy =>
    return .many (← prepare table fuel body) least most greedy
  | .capture g body => return .capture g (← prepare table fuel body)
  | .scope body => return .scope (← prepare table fuel body)
  | .atomic body => return .atomic (← prepare table fuel body)
  | .ahead positive body => return .ahead positive (← prepare table fuel body)
  | .behind positive _ body => do
    if !isAllowed positive body then .error .lookBehind
    let body ← prepare table fuel body
    resolve table fuel positive body
  | .cond t yes no =>
    return .cond (← prepare table fuel t) (← prepare table fuel yes) (← prepare table fuel no)
  | .absent body => return .absent (← prepare table fuel body)
  | .absentIn body inner =>
    return .absentIn (← prepare table fuel body) (← prepare table fuel inner)
  | .absentCut body => return .absentCut (← prepare table fuel body)
  | n => .ok n

end Highlight.Regex.LookBehind
