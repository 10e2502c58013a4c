import Highlight.Regex.CharSet

/-!
# `Highlight.Regex.Node`: the syntax tree of a pattern

A pattern is a tree of `Node`s. Options such as "ignore case" are resolved while the tree is
built: they show in the leaves. Sequences and alternations are binary and nest to the right.
-/

set_option autoImplicit false

namespace Highlight.Regex

/-- A test of a position that consumes nothing. -/
inductive Anchor where
  | textStart
  | textEnd
  /-- The end of the text, or before a final newline -/
  | lastLineEnd
  | lineStart
  | lineEnd
  /-- The position where the search began -/
  | searchStart
  /-- Between a word character and another character -/
  | wordEdge (negated asciiOnly : Bool)
  /-- Between two grapheme clusters -/
  | clusterEdge (negated : Bool)
  deriving DecidableEq, Repr

/-- How far before the current position a look-behind can begin. -/
structure Reach where
  /-- The least number of characters to step back -/
  least : Nat
  /-- The greatest number of characters to step back, if there is one -/
  most : Option Nat
  deriving DecidableEq, Repr

/-- A pattern. -/
inductive Node where
  /-- Matches the empty string -/
  | empty
  /-- Takes the place of one character, and never matches -/
  | impossible
  /-- Matches the characters one after the other, without regard to case if `fold` -/
  | literal (cs : List Char) (fold : Bool)
  /-- Matches one character of a set -/
  | set (s : CharSet)
  /-- Matches `a`, then `b` -/
  | seq (a b : Node)
  /-- Matches `a` or else `b` -/
  | alt (a b : Node)
  /-- Matches the body at least `least` and at most `most` times -/
  | many (body : Node) (least : Nat) (most : Option Nat) (greedy : Bool)
  /-- Matches the body and records where -/
  | capture (group : Nat) (body : Node)
  /-- Matches the body, which was written under options of its own -/
  | scope (body : Node)
  /-- Matches the body in its first way only -/
  | atomic (body : Node)
  /-- Tests whether the body matches here, or does not -/
  | ahead (positive : Bool) (body : Node)
  /-- Tests whether the body matches up to here, or does not -/
  | behind (positive : Bool) (reach : Reach) (body : Node)
  /-- Tests the position -/
  | anchor (a : Anchor)
  /-- Makes the reported match begin here -/
  | keep
  /-- Matches what one of the groups matched -/
  | backref (groups : List Nat) (fold : Bool) (level : Option Int)
  /-- Tests whether one of the groups has matched -/
  | isSet (groups : List Nat) (level : Option Int)
  /-- Matches the body of a group again -/
  | call (group : Nat)
  /-- Matches `test` and then `yes`, or `no` if the test fails -/
  | cond (test yes no : Node)
  /-- Matches any text in which `body` does not occur -/
  | absent (body : Node)
  /-- Matches `inner` without entering an occurrence of `body` -/
  | absentIn (body inner : Node)
  /-- Hides the text from the first occurrence of `body` on -/
  | absentCut (body : Node)
  /-- Makes hidden text visible again -/
  | absentClear
  /-- Matches one grapheme cluster -/
  | cluster
  /-- Succeeds at most `most` times along a match, or always -/
  | checkpoint (counter : Nat) (most : Option Nat)
  /-- Gives up the whole attempt to match -/
  | abandon
  /-- Breaks off the whole search, which is left without an answer -/
  | halt
  deriving DecidableEq, Repr

namespace Node

/-- The nodes one after the other. -/
def ofSeq : List Node → Node
  | [] => empty
  | [n] => n
  | n :: rest => seq n (ofSeq rest)

/-- The nodes as alternatives, in order. -/
def ofAlts : List Node → Node
  | [] => empty
  | [n] => n
  | n :: rest => alt n (ofAlts rest)

/-- A line break: a carriage return with a line feed, or any single line break character.
A carriage return is never parted from its line feed. -/
def lineBreak : Node :=
  atomic (alt (literal ['\r', '\n'] false)
    (set (.unions [.range 0x0A 0x0D, .range 0x85 0x85, .range 0x2028 0x2029])))

/-- A node that never matches: it tests whether one of no groups has matched. -/
def never : Node :=
  isSet [] none

end Node

end Highlight.Regex
