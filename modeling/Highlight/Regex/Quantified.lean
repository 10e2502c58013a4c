import Highlight.Regex.Token

/-!
# `Highlight.Regex.Quantified`: putting a quantifier on a node

A quantifier on a quantified node is often the same as one quantifier: `(?:a*)+` is `a*`.
`nest` simplifies such pairs, and `quantify` puts a quantifier on any node.
-/

set_option autoImplicit false

namespace Highlight.Regex

/-- The bounds of a repetition. -/
structure Bounds where
  /-- The least number of times -/
  least : Nat
  /-- The greatest number of times, if there is one -/
  most : Option Nat
  /-- Whether more repetitions are tried before fewer -/
  greedy : Bool
  deriving DecidableEq, Repr

namespace Bounds

/-- `?` -/
def optional : Bounds := ⟨0, some 1, true⟩
/-- `*` -/
def star : Bounds := ⟨0, none, true⟩
/-- `+` -/
def plus : Bounds := ⟨1, none, true⟩
/-- `??` -/
def lazyOptional : Bounds := ⟨0, some 1, false⟩
/-- `*?` -/
def lazyStar : Bounds := ⟨0, none, false⟩
/-- `+?` -/
def lazyPlus : Bounds := ⟨1, none, false⟩

/-- Whether the bounds have a quantifier sign of their own. -/
def isSimple (b : Bounds) : Bool :=
  [optional, star, plus, lazyOptional, lazyStar, lazyPlus].contains b

/-- Whether the number of times is fixed. -/
def isFixed (b : Bounds) : Bool :=
  b.most = some b.least

/-- The node with these bounds. -/
def apply (b : Bounds) (body : Node) : Node :=
  .many body b.least b.most b.greedy

end Bounds

/-- What becomes of a simple quantifier on a simple quantifier. -/
inductive Merge where
  /-- The inner quantifier alone -/
  | inner
  /-- One quantifier in place of both -/
  | one (b : Bounds)
  /-- Two quantifiers, the outer one first -/
  | two (outer inner : Bounds)

/-- How a simple quantifier on a simple quantifier is simplified. -/
def mergeSimple (inner outer : Bounds) : Merge :=
  let asWritten : Merge := .two outer inner
  let lazyPlusPlus : Merge := .two Bounds.lazyOptional Bounds.plus
  if inner = Bounds.optional then
    if outer = Bounds.optional then .inner
    else if outer = Bounds.star ∨ outer = Bounds.plus then .one Bounds.star
    else if outer = Bounds.lazyOptional then .one Bounds.lazyOptional
    else if outer = Bounds.lazyStar then .one Bounds.lazyStar
    else asWritten
  else if inner = Bounds.star then
    if outer = Bounds.lazyOptional ∨ outer = Bounds.lazyStar then lazyPlusPlus else .inner
  else if inner = Bounds.plus then
    if outer = Bounds.optional ∨ outer = Bounds.star then .one Bounds.star
    else if outer = Bounds.lazyOptional then asWritten
    else if outer = Bounds.lazyStar then lazyPlusPlus
    else .inner
  else if inner = Bounds.lazyOptional then
    if outer = Bounds.optional ∨ outer = Bounds.lazyOptional then .inner
    else .one Bounds.lazyStar
  else if inner = Bounds.lazyStar then .inner
  else
    if outer = Bounds.optional then asWritten
    else if outer = Bounds.star then .one Bounds.star
    else if outer = Bounds.lazyOptional ∨ outer = Bounds.lazyStar then .one Bounds.lazyStar
    else .inner

/-- A quantifier on a quantified body, simplified. -/
def nest (outer inner : Bounds) (body : Node) : Node :=
  if inner.isSimple && outer.isSimple then
    match mergeSimple inner outer with
    | .inner => inner.apply body
    | .one b => b.apply body
    | .two a b => a.apply (b.apply body)
  -- A product of fixed numbers is one as long as it is a number of the engine.
  else if inner.isFixed && outer.isFixed && decide (inner.least * outer.least ≤ 2147483647) then
    (Bounds.mk (outer.least * inner.least) (some (outer.least * inner.least))
      outer.greedy).apply body
  else outer.apply (inner.apply body)

/-- The result of a quantifier. -/
inductive Quantify where
  /-- Exactly once: the node itself -/
  | same
  /-- A node in place of the target -/
  | whole (n : Node)
  /-- The target without its last character, and the quantified last character -/
  | split (front last : Node)

/-- Puts a quantifier on a node. On a string it takes the last character only, unless the
string is the content of a group. A greedy quantifier with an upper bound has no use for its
upper bound on top of `*` or `+`. -/
def quantify (b : Bounds) (target : Node) (grouped : Bool) : Quantify :=
  if b.least = 1 ∧ b.most = some 1 then .same
  else
    match target with
    | .literal cs fold =>
      if grouped then .whole (b.apply target)
      else
        match cs.getLast?, cs.dropLast with
        | some c, d :: ds => .split (.literal (d :: ds) fold) (b.apply (.literal [c] fold))
        | _, _ => .whole (b.apply target)
    | .many body least most greedy =>
      let inner : Bounds := ⟨least, most, greedy⟩
      if inner.isSimple && !b.isSimple then
        let most := match b.most with
          | some n =>
            if (inner = Bounds.star ∨ inner = Bounds.plus) ∧ 1 < n ∧ b.greedy then
              some (if b.least = 0 then 1 else b.least)
            else b.most
          | none => none
        .whole ((Bounds.mk b.least most b.greedy).apply target)
      else .whole (nest b inner body)
    | _ => .whole (b.apply target)

namespace Node

/-- Whether no quantifier can stand after the node, because it is a test and not a match. -/
def isUnrepeatable : Node → Bool
  | anchor _ | ahead _ _ | behind _ _ _ | keep | isSet [] _ | checkpoint _ _ | abandon
  | halt => true
  | alt a b => a.isUnrepeatable || b.isUnrepeatable
  | _ => false

/-- Joins neighbouring strings that are compared in the same way. -/
def joinLiterals : List Node → List Node
  | [] => []
  | n :: rest =>
    match n, joinLiterals rest with
    | .literal cs f, .literal ds g :: tail =>
      if f == g then .literal (cs ++ ds) f :: tail else n :: .literal ds g :: tail
    | _, tail => n :: tail

end Node

end Highlight.Regex
