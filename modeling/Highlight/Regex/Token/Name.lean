import Highlight.Regex.Token

/-!
# `Highlight.Regex.Token.Name`: names and numbers inside a pattern

* `number?` and `digits` read numbers.
* `definedName` reads the name that a group is given.
* `calledName` reads the name or number that a call refers to.
* `referredName` reads the name or number of a back reference, which can carry a level.
-/

set_option autoImplicit false

namespace Highlight.Regex

open Highlight.Unicode

/-- The greatest number that can be written in a pattern. -/
def maxNumber : Nat := 2147483647

/-- The value of a digit in base 8, 10 or 16. -/
def digitValue (c : Char) : Nat :=
  if c.isDigit then c.toNat - '0'.toNat
  else if 'a' ≤ c ∧ c ≤ 'f' then c.toNat - 'a'.toNat + 10
  else c.toNat - 'A'.toNat + 10

/-- The value of a row of digits. -/
def digitsValue (base : Nat) (ds : List Char) : Nat :=
  ds.foldl (fun n d => n * base + digitValue d) 0

/-- Whether the character is a hexadecimal digit. -/
def isHexDigit (c : Char) : Bool :=
  c.isDigit || (decide ('a' ≤ c) && decide (c ≤ 'f')) || (decide ('A' ≤ c) && decide (c ≤ 'F'))

/-- Whether the character is an octal digit. -/
def isOctalDigit (c : Char) : Bool :=
  decide ('0' ≤ c) && decide (c ≤ '7')

/-- The decimal digits at the start of the text, and the rest. -/
def digits (s : List Char) : List Char × List Char :=
  s.span Char.isDigit

/-- At most `n` leading characters that satisfy `p`, and the rest. -/
def spanAtMost (p : Char → Bool) : Nat → List Char → List Char × List Char
  | 0, s => ([], s)
  | _ + 1, [] => ([], [])
  | n + 1, c :: r =>
    if p c then
      let (taken, rest) := spanAtMost p n r
      (c :: taken, rest)
    else ([], c :: r)

/-- The number that some digits write, unless it is too big. -/
def number? (ds : List Char) : Option Nat :=
  let n := digitsValue 10 ds
  if n ≤ maxNumber then some n else none

/-- Whether the character can be part of a word. -/
def isWordChar (c : Char) : Bool :=
  Property.isWordPart c.toNat

/-- The character that ends a name opened by `opener`. -/
def nameEnd (opener : Char) : Char :=
  if opener = '<' then '>' else if opener = '(' then ')' else opener

/-- The text shown for a name that is given up at its first character: all up to the end of
the name, or all the rest if nothing follows the name. -/
def faultyName (close : Char) (s : List Char) : List Char :=
  match s with
  | [] => []
  | c :: r =>
    let (body, after) := r.span fun x => x != close && x != ')'
    match after with
    | [] => c :: body
    | [t] => c :: (body ++ [t])
    | _ => c :: body

/-- Reads the name of a group that is being defined, up to `close`. -/
def definedName (close : Char) (s : List Char) :
    Except PatternError (List Char × List Char) :=
  match s with
  | [] => .error .emptyGroupName
  | c :: r =>
    if c = close then .error .emptyGroupName
    else if c.isDigit || c == '-' || c == '+' then .error (.groupName (faultyName close s))
    else if !isWordChar c then .error (.groupNameChar (faultyName close s))
    else
      let (body, after) := r.span fun x => x != close && x != ')'
      match after with
      | [] => .error (.groupName s)
      | t :: rest => if t = close then .ok (c :: body, rest) else .error (.groupName s)

/-- What a reference names. -/
inductive Referent where
  /-- A group by its number -/
  | absolute (n : Nat)
  /-- A group by its distance from here -/
  | relative (n : Int)
  /-- A group by its name -/
  | name (name : List Char)
  deriving DecidableEq, Repr

/-- How the first character of a reference makes it be read. -/
inductive ReferentKind where
  /-- As a number -/
  | absolute
  /-- As a distance -/
  | relative (sign : Int)
  | name
  deriving DecidableEq, Repr

/-- The kind of a reference, by its first character. -/
def ReferentKind.of (c : Char) : ReferentKind :=
  if c.isDigit then .absolute
  else if c = '-' then .relative (-1)
  else if c = '+' then .relative 1
  else .name

/-- The referent that some characters write, given its kind. `written` holds all of them,
with the sign of a distance. -/
def referent (kind : ReferentKind) (written shown : List Char) :
    Except PatternError Referent :=
  match kind with
  | .name => .ok (.name written)
  | .absolute =>
    match number? written with
    | some n => .ok (.absolute n)
    | none => .error .numberTooBig
  | .relative sign =>
    match number? (written.drop 1) with
    | some 0 => .error (.groupName shown)
    | some n => .ok (.relative (sign * n))
    | none => .error .numberTooBig

/-- Reads the referent of a call, up to `close`. Yields it with the characters that write
it. -/
def calledName (close : Char) (s : List Char) :
    Except PatternError (Referent × List Char × List Char) :=
  match s with
  | [] => .error .emptyGroupName
  | c :: r =>
    if c = close then .error .emptyGroupName
    else
      let kind := ReferentKind.of c
      if kind = .name && !isWordChar c then .error (.groupNameChar (faultyName close s))
      else
        let (body, after) := r.span fun x => x != close && x != ')'
        let written := c :: body
        let numeral := if kind = .absolute then written else body
        match after with
        | [] => .error (.groupName s)
        | t :: rest =>
          if t ≠ close then .error (.groupName s)
          else if kind ≠ .name && numeral.isEmpty then .error (.groupName written)
          else if kind ≠ .name && !numeral.all Char.isDigit then
            match numeral.find? fun x => !x.isDigit with
            | some x =>
              .error (if isWordChar x then .groupName written else .groupNameChar written)
            | none => .error (.groupName written)
          else do
            let target ← referent kind written written
            return (target, written, rest)

/-- Reads the referent of a back reference, up to `close`, with the recursion level that may
follow it after a sign. Yields the referent, the characters that write it and the level. -/
def referredName (close : Char) (s : List Char) :
    Except PatternError (Referent × List Char × Option Int × List Char) :=
  match s with
  | [] => .error .emptyGroupName
  | c :: r =>
    if c = close then .error .emptyGroupName
    else
      let kind := ReferentKind.of c
      let (body, after) := r.span fun x => x != close && x != ')' && x != '+' && x != '-'
      let written := c :: body
      let numeral := if kind = .absolute then written else body
      -- The name shown stops where the name stops, which is one character early at the end
      -- of the pattern.
      let shown := if after.isEmpty then written.dropLast else written
      if kind = .name && !isWordChar c then .error (.groupNameChar shown)
      else if kind = .name && !body.all isWordChar then .error (.groupNameChar shown)
      else if kind ≠ .name && !numeral.all Char.isDigit then .error (.groupName shown)
      else if kind ≠ .name && numeral.isEmpty && !after.isEmpty then .error (.groupName shown)
      else
        match after with
        | [] => .error (.groupName s)
        | t :: rest =>
          if t = close then do
            let target ← referent kind written written
            return (target, written, none, rest)
          else if t = '+' ∨ t = '-' then
            match rest with
            | [] => .error (.groupNameChar written)
            | d :: _ =>
              if !d.isDigit then .error (.groupName s)
              else
                let (ds, tail) := digits rest
                match number? ds with
                | none => .error .numberTooBig
                | some n =>
                  match tail with
                  | e :: final =>
                    if e = close then do
                      let target ← referent kind written written
                      let level : Int := if t = '-' then -(n : Int) else n
                      return (target, written, some level, final)
                    else .error (.groupName s)
                  | [] => .error (.groupName s)
          else .error (.groupName s)

end Highlight.Regex
