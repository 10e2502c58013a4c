import Highlight.Regex.Error
import Highlight.Regex.Node

/-!
# `Highlight.Regex.Token`: the words of the pattern language

A pattern is read as a sequence of tokens. How the rest of a pattern is read depends on the
options in force and on the groups opened so far, which is what `Options` and `Groups` hold.
-/

set_option autoImplicit false

namespace Highlight.Regex

open Highlight.Unicode

/-- The options in force at a place of a pattern. -/
structure Options where
  /-- Case does not count -/
  ignoreCase : Bool
  /-- The dot matches a newline -/
  dotAll : Bool
  /-- Blanks and comments in the pattern do not count -/
  extended : Bool
  /-- Word characters are ASCII -/
  wordAscii : Bool
  digitAscii : Bool
  /-- White space is ASCII -/
  spaceAscii : Bool
  /-- All named character classes are ASCII -/
  posixAscii : Bool
  /-- Plain groups do not capture -/
  plainGroups : Bool
  deriving DecidableEq, Repr

namespace Options

/-- The options at the start of a pattern. -/
def initial : Options :=
  ⟨false, false, false, false, false, false, false, false⟩

/-- Whether a property is limited to ASCII. -/
def asciiOnly (o : Options) : Property → Bool
  | .word | .wordPart => o.wordAscii || o.posixAscii
  | .digit => o.digitAscii || o.posixAscii
  | .space => o.spaceAscii || o.posixAscii
  | .alnum | .alpha | .blank | .cntrl | .graph | .lower | .print | .punct | .upper
  | .xdigit => o.posixAscii
  | _ => false

/-- The set that a property denotes under the options. -/
def propertySet (o : Options) (p : Property) (negated : Bool) : CharSet :=
  .negateIf negated (.property p (o.asciiOnly p))

end Options

/-- A reference to a group as the pattern writes it. -/
inductive GroupRef where
  /-- By number, counted from the start of the pattern -/
  | number (n : Nat)
  /-- By name -/
  | name (name : List Char)
  deriving DecidableEq, Repr

/-- The groups of a pattern as far as it has been read. -/
structure Groups where
  /-- The number of groups opened -/
  count : Nat
  /-- The number of groups opened with a name -/
  named : Nat
  /-- The names, each with its groups in the order of the pattern -/
  names : List (List Char × List Nat)
  deriving DecidableEq, Repr

namespace Groups

/-- The groups at the start of a pattern. -/
def none : Groups := ⟨0, 0, []⟩

/-- The groups that have a name. -/
def find (g : Groups) (name : List Char) : List Nat :=
  match g.names.find? fun entry => entry.1 == name with
  | some (_, groups) => groups
  | Option.none => []

/-- Opens a group without a name. -/
def openPlain (g : Groups) : Groups :=
  { g with count := g.count + 1 }

/-- Opens a group with a name. -/
def openNamed (g : Groups) (name : List Char) : Groups :=
  let group := g.count + 1
  let names :=
    if g.names.any fun entry => entry.1 == name then
      g.names.map fun entry =>
        if entry.1 == name then (entry.1, entry.2 ++ [group]) else entry
    else g.names ++ [(name, [group])]
  { count := group, named := g.named + 1, names := names }

/-- The group meant by a number relative to the groups opened so far: `+1` is the next group
to be opened, `-1` the last one opened. -/
def relative (g : Groups) (n : Int) : Int :=
  if 0 < n then n + g.count else n + g.count + 1

end Groups

/-- How often something is to be repeated. -/
structure Quantifier where
  /-- The least number of times -/
  least : Nat
  /-- The greatest number of times, if there is one -/
  most : Option Nat
  /-- Whether more repetitions are tried before fewer -/
  greedy : Bool
  /-- Whether the number of repetitions is final once found -/
  possessive : Bool
  deriving DecidableEq, Repr

/-- A word of the pattern language. -/
inductive Token where
  -- The end of the pattern
  | stop
  | bar | openGroup | closeGroup | openClass
  -- A character that stands for itself
  | char (c : Char)
  -- A byte written by its number
  | byte (b : Nat)
  -- A code point written by its number or by an escape
  | code (n : Nat)
  | quantifier (q : Quantifier)
  | dot
  -- Any character but a newline, and any character, whatever the options
  | notNewline | everything
  | lineBreak | cluster
  -- The place where the reported match begins
  | keep
  | anchor (a : Anchor)
  | property (p : Property) (negated : Bool)
  -- A property written by its name, to which case folding applies
  | namedProperty (p : Property) (negated : Bool)
  -- What a group has matched
  | backref (groups : List Nat) (byName : Bool) (level : Option Int)
  -- The pattern of a group
  | call (ref : GroupRef) (written : List Char)
  deriving Repr

end Highlight.Regex
