import Highlight.Regex.LookBehind
import Highlight.Regex.Parser
import Highlight.Regex.Recursion

/-!
# `Highlight.Regex.Program`: patterns ready for matching

`Program.ofPattern` reads a pattern, resolves its references and checks what can only be
checked once the whole pattern is known. In this order it rejects

* numbered back references beside named groups,
* back references to groups that do not exist,
* calls of groups that do not exist, or whose name is ambiguous,
* groups that call themselves without end,
* look-behinds that cannot be tried.

Plain groups do not capture once the pattern has a named group.
-/

set_option autoImplicit false

namespace Highlight.Regex

namespace Node

/-- Removes the capturing groups that `keep` does not select, but not their content. A
quantifier whose body was such a group may then stand on a quantifier, and is simplified. -/
def dropGroups (keep : Nat → Bool) : Node → Node
  | capture g body =>
    if keep g then capture g (dropGroups keep body) else dropGroups keep body
  | seq a b => seq (dropGroups keep a) (dropGroups keep b)
  | alt a b => alt (dropGroups keep a) (dropGroups keep b)
  | many body least most greedy =>
    let dropped := match body with
      | capture g _ => !keep g
      | _ => false
    match dropped, dropGroups keep body with
    | true, many inner l m g => nest ⟨least, most, greedy⟩ ⟨l, m, g⟩ inner
    | _, inner => many inner least most greedy
  | scope body => scope (dropGroups keep body)
  | atomic body => atomic (dropGroups keep body)
  | ahead positive body => ahead positive (dropGroups keep body)
  | behind positive reach body => behind positive reach (dropGroups keep body)
  | cond t yes no => cond (dropGroups keep t) (dropGroups keep yes) (dropGroups keep no)
  | absent body => absent (dropGroups keep body)
  | absentIn body inner => absentIn (dropGroups keep body) (dropGroups keep inner)
  | absentCut body => absentCut (dropGroups keep body)
  | n => n

/-- Puts the called group in place of the position of each call. -/
def resolveCalls (target : Nat → Nat) : Node → Node
  | call k => call (target k)
  | seq a b => seq (resolveCalls target a) (resolveCalls target b)
  | alt a b => alt (resolveCalls target a) (resolveCalls target b)
  | many body least most greedy => many (resolveCalls target body) least most greedy
  | capture g body => capture g (resolveCalls target body)
  | scope body => scope (resolveCalls target body)
  | atomic body => atomic (resolveCalls target body)
  | ahead positive body => ahead positive (resolveCalls target body)
  | behind positive reach body => behind positive reach (resolveCalls target body)
  | cond t yes no =>
    cond (resolveCalls target t) (resolveCalls target yes) (resolveCalls target no)
  | absent body => absent (resolveCalls target body)
  | absentIn body inner => absentIn (resolveCalls target body) (resolveCalls target inner)
  | absentCut body => absentCut (resolveCalls target body)
  | n => n

/-- The capturing groups of a node with their bodies. -/
def captures : Node → List (Nat × Node)
  | capture g body => (g, body) :: captures body
  | seq a b => captures a ++ captures b
  | alt a b => captures a ++ captures b
  | many body _ _ _ => captures body
  | scope body => captures body
  | atomic body => captures body
  | ahead _ body => captures body
  | behind _ _ body => captures body
  | cond t yes no => captures t ++ captures yes ++ captures no
  | absent body => captures body
  | absentIn body inner => captures body ++ captures inner
  | absentCut body => captures body
  | _ => []

/-- The groups that back references of a node name. -/
def referenced : Node → List Nat
  | backref groups _ _ => groups
  | isSet groups _ => groups
  | seq a b => referenced a ++ referenced b
  | alt a b => referenced a ++ referenced b
  | many body _ _ _ => referenced body
  | capture _ body => referenced body
  | scope body => referenced body
  | atomic body => referenced body
  | ahead _ body => referenced body
  | behind _ _ body => referenced body
  | cond t yes no => referenced t ++ referenced yes ++ referenced no
  | absent body => referenced body
  | absentIn body inner => referenced body ++ referenced inner
  | absentCut body => referenced body
  | _ => []

/-- The number of nodes of a tree. -/
def size : Node → Nat
  | seq a b => a.size + b.size + 1
  | alt a b => a.size + b.size + 1
  | many body _ _ _ => body.size + 1
  | capture _ body => body.size + 1
  | scope body => body.size + 1
  | atomic body => body.size + 1
  | ahead _ body => body.size + 1
  | behind _ _ body => body.size + 1
  | cond t yes no => t.size + yes.size + no.size + 1
  | absent body => body.size + 1
  | absentIn body inner => body.size + inner.size + 1
  | absentCut body => body.size + 1
  | _ => 1

end Node

/-- A pattern ready for matching. -/
structure Program where
  /-- The tree to match -/
  body : Node
  /-- The body of each group, by number -/
  groups : Array (Option Node)
  /-- The groups that are called from somewhere -/
  called : List Nat
  /-- The groups that a back reference names -/
  referenced : List Nat
  /-- The group names, each with its groups -/
  names : List (List Char × List Nat)
  deriving DecidableEq, Repr

namespace Program

/-- The groups as a table. -/
def table (bodies : Array (Option Node)) : GroupTable :=
  fun g => (bodies[g]?).join

/-- The bodies of the groups of a tree with `count` groups. Group 0 is the whole tree. -/
def bodies (count : Nat) (tree : Node) : Array (Option Node) :=
  tree.captures.foldl (fun a (g, body) => a.setIfInBounds g (some body))
    ((Array.replicate (count + 1) none).setIfInBounds 0 (some tree))

/-- The group that a call names. -/
def callTarget (groups : Groups) (ref : GroupRef) (written : List Char) :
    Except PatternError Nat :=
  match ref with
  | .number n =>
    if 0 < groups.named then .error .numberedReference
    else if groups.count < n then .error (.unknownGroup written)
    else .ok n
  | .name name =>
    match groups.find name with
    | [] => .error (.unknownName written)
    | [g] => .ok g
    | _ => .error (.ambiguousCall written)

/-- The tree of a pattern without the groups that do not capture beside named ones. -/
def capturing (s : Syntax) : Node :=
  if 0 < s.groups.named && s.groups.named != s.groups.count then
    s.tree.dropGroups (s.groups.names.flatMap (·.2)).contains
  else s.tree

/-- The tree of a pattern with its calls resolved. It is a group itself if it is called. -/
def resolved (s : Syntax) (targets : List Nat) : Node :=
  let tree := (capturing s).resolveCalls fun k => targets.getD k 0
  if targets.contains 0 then .capture 0 tree else tree

/-- Checks a tree whose calls have been resolved. -/
def ofTree (s : Syntax) (targets : List Nat) (tree : Node) : Except PatternError Program := do
  let first := bodies s.groups.count tree
  let fuel := tree.size * (s.groups.count + 2) + 1
  if targets.any (Recursion.isEndless (table first) fuel) then .error .endlessRecursion
  let tree ← LookBehind.prepare (table first) fuel tree
  return {
    body := tree
    groups := bodies s.groups.count tree
    called := targets.eraseDups
    referenced := tree.referenced.eraseDups
    names := s.groups.names }

/-- Resolves and checks a pattern that has been read. -/
def ofSyntax (s : Syntax) : Except PatternError Program := do
  if 0 < s.groups.named && s.numberedBackref then .error .numberedReference
  if s.groups.count < s.greatestBackref then .error .unknownBackref
  let targets ← s.calls.mapM fun (ref, written) => callTarget s.groups ref written
  ofTree s targets (resolved s targets)

/-- Reads, resolves and checks a pattern. -/
def ofPattern (pattern : List Char) : Except PatternError Program := do
  ofSyntax (← Syntax.read pattern)

/-- The groups with a name. -/
def groupsNamed (p : Program) (name : List Char) : List Nat :=
  match p.names.find? fun entry => entry.1 == name with
  | some (_, groups) => groups
  | none => []

end Program

end Highlight.Regex
