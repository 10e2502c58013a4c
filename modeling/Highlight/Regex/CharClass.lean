import Highlight.Regex.Token.Lexer

/-!
# `Highlight.Regex.CharClass`: character classes between brackets

A class lists characters, ranges, properties and further classes, and `&&` intersects what is
on its two sides. `CharClass.read` reads a class up to its closing bracket.

The reader keeps the last item in hand, since a hyphen may make it the start of a range. What
is in hand is a `Phase`, and the members known so far are `Members`.
-/

set_option autoImplicit false

namespace Highlight.Regex

open Highlight.Unicode

/-- A character class as written: its members, and whether it means all but them. -/
structure CharClass where
  /-- Whether the class begins with a circumflex -/
  negated : Bool
  /-- The members listed -/
  members : CharSet
  deriving Repr

namespace CharClass

/-- The set of characters that a class denotes. -/
def toSet (c : CharClass) : CharSet :=
  .negateIf c.negated c.members

/-- A word inside a character class. -/
inductive Item where
  /-- The end of the pattern -/
  | stop
  /-- A closing bracket -/
  | close
  | hyphen
  /-- An opening bracket -/
  | nested
  /-- The start of a named property such as `[:alpha:]` -/
  | bracket
  /-- The sign for intersection -/
  | and
  /-- A character that stands for itself -/
  | char (c : Char)
  /-- A character written by an escape or by its number -/
  | code (n : Nat)
  /-- A byte written by its number in a base -/
  | byte (base b : Nat)
  /-- A set of characters -/
  | property (p : Property) (negated : Bool)
  deriving Repr

/-- Whether `:]` follows before any bare closing bracket. -/
def hasBracketEnd : List Char → Bool
  | [] => false
  | [_] => false
  | '\\' :: _ :: r => hasBracketEnd r
  | c :: d :: r =>
    if c = ':' ∧ d = ']' then true
    else if c = ']' then false
    else hasBracketEnd (d :: r)

/-- Reads an escape inside a class, after the backslash. -/
def escape (s : List Char) : Except PatternError (Item × List Char) :=
  match s with
  | [] => .error .endAtEscape
  | c :: r =>
    match c with
    | 'w' => .ok (.property .word false, r)
    | 'W' => .ok (.property .word true, r)
    | 'd' => .ok (.property .digit false, r)
    | 'D' => .ok (.property .digit true, r)
    | 's' => .ok (.property .space false, r)
    | 'S' => .ok (.property .space true, r)
    | 'h' => .ok (.property .xdigit false, r)
    | 'H' => .ok (.property .xdigit true, r)
    | 'p' | 'P' =>
      match r with
      | '{' :: t => do
        let (p, negated, rest) ← propertyName (c == 'P') t
        return (.property p negated, rest)
      | _ => .ok (.char c, r)
    | 'x' =>
      match r with
      | [] => .ok (.char 'x', [])
      | '{' :: t => do
        match ← bracedCode 16 isHexDigit 8 true t with
        | none => return (.char 'x', r)
        | some (n, tail, rest) =>
          -- What remains of the list of code points, or of a range in it, is read again.
          let rest := match tail with
            | .last => rest
            | .more => '\\' :: 'x' :: '{' :: rest
            | .upTo => '-' :: '\\' :: 'x' :: '{' :: rest
          return (.code n, rest)
      | _ =>
        let (ds, rest) := spanAtMost isHexDigit 2 r
        .ok (.byte 16 (digitsValue 16 ds), rest)
    | 'u' =>
      if r.isEmpty then .ok (.char 'u', [])
      else
        let (ds, rest) := spanAtMost isHexDigit 4 r
        if ds.length < 4 then .error .codePoint else .ok (.code (digitsValue 16 ds), rest)
    | _ =>
      if isOctalDigit c then
        let (os, rest) := spanAtMost isOctalDigit 3 s
        .ok (.byte 8 (digitsValue 8 os % 256), rest)
      else do
        let (n, rest) ← escapedValue s
        if n = c.toNat then return (.char c, r) else return (.code n, rest)

/-- Reads the next word of a class. -/
def nextItem (s : List Char) : Except PatternError (Item × List Char) :=
  match s with
  | [] => .ok (.stop, [])
  | '\\' :: r => escape r
  | ']' :: r => .ok (.close, r)
  | '-' :: r => .ok (.hyphen, r)
  | '[' :: ':' :: r =>
    -- Without its end, the bracket opens a class whose first member is the colon.
    if hasBracketEnd r then .ok (.bracket, r) else .ok (.nested, ':' :: r)
  | '[' :: r => .ok (.nested, r)
  | '&' :: '&' :: r => .ok (.and, r)
  | c :: r => .ok (.char c, r)

/-- An item in hand: a code point, or a set that has been added already. A code point written
as a single byte beyond ASCII stands for no character. -/
inductive Value where
  /-- A code point. `single` says that it takes a single byte. -/
  | code (n : Nat) (single : Bool)
  | set
  deriving Repr

namespace Value

/-- The members that an item stands for on its own. -/
def members : Value → CharSet
  | .code n single => if single && decide (0x80 ≤ n) then .none else .range n n
  | .set => .none

end Value

/-- What the reader has in hand. -/
inductive Phase where
  /-- Nothing, at the start -/
  | start
  /-- An item that may begin a range -/
  | value (v : Value)
  /-- The start of a range, after its hyphen -/
  | range (first : Value)
  /-- Nothing, after a range or a nested class -/
  | complete
  deriving Repr

/-- The members known so far. -/
structure Members where
  /-- The members before the last intersection sign -/
  before : Option CharSet
  /-- The members since then -/
  since : CharSet
  deriving Repr

namespace Members

/-- No members. -/
def none : Members := ⟨Option.none, .none⟩

/-- Adds the members of a set. -/
def add (m : Members) (s : CharSet) : Members :=
  match m.since, s with
  | _, .none => m
  | .none, _ => { m with since := s }
  | since, _ => { m with since := .union since s }

/-- All members that count. -/
def all (m : Members) : CharSet :=
  match m.before with
  | Option.none => m.since
  | some s => .inter s m.since

/-- Goes on after an intersection sign. -/
def intersect (m : Members) : Members := ⟨some m.all, .none⟩

/-- Adds the item in hand. -/
def settle (m : Members) : Phase → Members
  | .value v => m.add v.members
  | _ => m

end Members

/-- The range from one code point to another. Two single bytes make a range of ASCII. -/
def rangeSet (first : Value) (last : Nat) (single : Bool) : Except PatternError CharSet :=
  match first with
  | .set => .ok .none
  | .code n firstSingle =>
    if last < n then .error .emptyRange
    else if firstSingle && single then .ok (.range n (min last 0x7F))
    else .ok (.range n last)

/-- Takes a code point into hand. -/
def takeCode (m : Members) (phase : Phase) (n : Nat) (single : Bool) :
    Except PatternError (Members × Phase) :=
  match phase with
  | .range first => do
    let s ← rangeSet first n single
    return (m.add s, .complete)
  | _ => .ok (m.settle phase, .value (.code n single))

/-- Takes a set into hand, and adds it. -/
def takeSet (m : Members) (phase : Phase) (s : CharSet) :
    Except PatternError (Members × Phase) :=
  match phase with
  | .range _ => .error .setAtRangeEnd
  | _ => .ok ((m.settle phase).add s, .value .set)

/-- Reads a named property after `[:`. Yields nothing if there is none. -/
def bracketed (s : List Char) : Except PatternError (Option (Property × Bool × List Char)) :=
  let (negated, s) := match s with
    | '^' :: r => (true, r)
    | _ => (false, s)
  let known : Option (String × Property) :=
    if s.length < 7 then none
    else Property.brackets.find? fun entry => entry.1.toList.isPrefixOf s
  match known with
  | some (name, p) =>
    match s.drop name.length with
    | ':' :: ']' :: rest => .ok (some (p, negated, rest))
    | _ => .error .unknownBracket
  | none =>
    -- An unknown name counts as one only if its end is not far.
    let (_, after) := spanAtMost (fun c => c != ':' && c != ']') 21 s
    match after with
    | ':' :: ']' :: _ => .error .unknownBracket
    | _ => .ok none

/-- Reads the bytes of one character, of which the first has been read. Yields the code
point, whether it takes a single byte, and the rest. -/
def gatherBytes (base first : Nat) (s : List Char) :
    Except PatternError (Nat × Bool × List Char) :=
  let rec more : Nat → List Char → Except PatternError (List Nat × List Char)
    | 0, s => .ok ([], s)
    | k + 1, s => do
      match ← nextItem s with
      | (.byte b n, rest) =>
        if b = base then
          let (ns, final) ← more k rest
          return (n :: ns, final)
        else .error .truncatedBytes
      | _ => .error .truncatedBytes
  if byteCount first = 1 then .ok (first, true, s)
  else do
    let (bs, rest) ← more (byteCount first - 1) s
    if !bs.all isContinuation then .error .codePoint
    else
      match bytesToChar? (first :: bs) with
      | some c => return (c.toNat, false, rest)
      -- These bytes stand for no character. Nor does a surrogate.
      | none => return (0xD800, false, rest)

mutual

/-- Reads a class after its opening bracket. -/
def readClass (o : Options) : Nat → List Char → Except PatternError (CharClass × List Char)
  | 0, _ => .error .tooDeep
  | fuel + 1, s => do
    let (item, rest) ← nextItem s
    let (negated, item, rest) ←
      match item with
      | .char '^' =>
        -- An escaped circumflex is an ordinary member.
        if s.head? = some '^' then do
          let (item, rest) ← nextItem rest
          pure (true, item, rest)
        else pure (false, item, rest)
      | _ => pure (false, item, rest)
    -- A closing bracket in the first place is a member, if another one follows.
    let item ←
      match item with
      | .close => if rest.contains ']' then pure (.char ']') else .error .emptyClass
      | _ => pure item
    let (members, rest) ← readItems o fuel Members.none .start item rest
    return (⟨negated, members⟩, rest)

/-- Reads the members of a class up to its closing bracket. `item` has just been read. -/
def readItems (o : Options) :
    Nat → Members → Phase → Item → List Char → Except PatternError (CharSet × List Char)
  | 0, _, _, _, _ => .error .tooDeep
  | fuel + 1, m, phase, item, s =>
    match item with
    | .close => .ok ((m.settle phase).all, s)
    | .stop => .error .unclosedClass
    | .char c => do
      let (m, phase) ← takeCode m phase c.toNat (decide (c.toNat < 0x80))
      let (item, s) ← nextItem s
      readItems o fuel m phase item s
    | .code n =>
      -- At the end of a range, any number will do.
      let inRange := match phase with
        | .range _ => true
        | _ => false
      if 0x10FFFF < n && !inRange then .error .codePoint
      else do
        let (m, phase) ← takeCode m phase n (decide (n < 0x80))
        let (item, s) ← nextItem s
        readItems o fuel m phase item s
    | .byte base b => do
      let (n, single, s) ← gatherBytes base b s
      let (m, phase) ← takeCode m phase n single
      let (item, s) ← nextItem s
      readItems o fuel m phase item s
    | .property p negated => do
      let (m, phase) ← takeSet m phase (o.propertySet p negated)
      let (item, s) ← nextItem s
      readItems o fuel m phase item s
    | .bracket => do
      match ← bracketed s with
      | some (p, negated, s) =>
        let (m, phase) ← takeSet m phase (o.propertySet p negated)
        let (item, s) ← nextItem s
        readItems o fuel m phase item s
      | none =>
        -- The bracket and the colon are members.
        let (m, phase) ← takeCode m phase '['.toNat true
        let (item, s) ← nextItem (':' :: s)
        readItems o fuel m phase item s
    | .hyphen => do
      match phase with
      | .range _ =>
        let (m, phase) ← takeCode m phase '-'.toNat true
        let (item, s) ← nextItem s
        readItems o fuel m phase item s
      | .value v =>
        let (item, s) ← nextItem s
        match item, v with
        | .close, _ | .and, _ =>
          let (m, phase) ← takeCode m phase '-'.toNat true
          readItems o fuel m phase item s
        | _, .set => .error .setAtRangeStart
        | _, _ => readItems o fuel m (.range v) item s
      | _ =>
        let (item, s) ← nextItem s
        let (m, phase) ← takeCode m phase '-'.toNat true
        readItems o fuel m phase item s
    | .nested => do
      let (inner, s) ← readClass o fuel s
      let (item, s) ← nextItem s
      readItems o fuel ((m.settle phase).add inner.toSet) .complete item s
    | .and => do
      let (item, s) ← nextItem s
      readItems o fuel (m.settle phase).intersect .start item s

end

/-- Reads a class after its opening bracket. -/
def read (o : Options) (s : List Char) : Except PatternError (CharClass × List Char) :=
  readClass o (4 * s.length + 8) s

end CharClass

end Highlight.Regex
