import Highlight.Regex.Token.Escape

/-!
# `Highlight.Regex.Token.Lexer`: cutting a pattern into tokens

`Token.next` reads one token outside of a character class. Comments do not count, nor do
blanks under the option for extended patterns.
-/

set_option autoImplicit false

namespace Highlight.Regex

open Highlight.Unicode

/-- Where the reader stands while it skips what does not count. -/
inductive SkipMode where
  /-- In the pattern itself -/
  | pattern
  /-- In a comment that ends with its line -/
  | line
  /-- In a comment that ends with a parenthesis -/
  | group
  deriving DecidableEq, Repr

/-- Whether the character is a blank that extended patterns ignore. -/
def isIgnoredBlank (c : Char) : Bool :=
  c == ' ' || c == '\t' || c == '\n' || c == '\r' || c == '\x0c'

/-- Skips comments, and in extended patterns blanks and line comments. -/
def skipIgnored (extended : Bool) :
    SkipMode → List Char → Except PatternError (List Char)
  | .pattern, [] => .ok []
  | .pattern, '(' :: '?' :: '#' :: r => skipIgnored extended .group r
  | .pattern, c :: r =>
    if extended && c == '#' then skipIgnored extended .line r
    else if extended && isIgnoredBlank c then skipIgnored extended .pattern r
    else .ok (c :: r)
  | .line, [] => .ok []
  | .line, c :: r =>
    if c = '\n' then skipIgnored extended .pattern r else skipIgnored extended .line r
  | .group, [] => .error .endInGroup
  | .group, '\\' :: _ :: r => skipIgnored extended .group r
  | .group, c :: r =>
    if c = ')' then skipIgnored extended .pattern r else skipIgnored extended .group r

namespace Token

/-- The greatest bound of a quantifier. -/
def maxRepeat : Nat := 100000

/-- Reads the sign after a quantifier that makes it lazy or possessive. -/
def suffixed (least : Nat) (most : Option Nat) (s : List Char) : Token × List Char :=
  match s with
  | '?' :: r => (.quantifier ⟨least, most, false, false⟩, r)
  | '+' :: r => (.quantifier ⟨least, most, true, true⟩, r)
  | _ => (.quantifier ⟨least, most, true, false⟩, s)

/-- A bound of a quantifier in braces. -/
def bound (ds : List Char) : Except PatternError Nat :=
  let n := digitsValue 10 ds
  if n ≤ maxRepeat then .ok n else .error .repeatTooBig

/-- Reads a quantifier in braces, after the opening brace. Yields nothing if the brace stands
for itself. Bounds in the wrong order are exchanged, and make the quantifier possessive. -/
def interval (s : List Char) : Except PatternError (Option (Token × List Char)) := do
  let (lowDigits, afterLow) := digits s
  let low ← bound lowDigits
  match afterLow with
  | ',' :: r =>
    let (highDigits, afterHigh) := digits r
    let high ← bound highDigits
    -- `{,}` stands for itself.
    if lowDigits.isEmpty && highDigits.isEmpty then return none
    match afterHigh with
    | '}' :: rest =>
      if highDigits.isEmpty then
        match rest with
        | '?' :: tail => return some (.quantifier ⟨low, none, false, false⟩, tail)
        | _ => return some (.quantifier ⟨low, none, true, false⟩, rest)
      else if high < low then
        -- No sign is read after exchanged bounds.
        return some (.quantifier ⟨high, some low, true, true⟩, rest)
      else
        match rest with
        | '?' :: tail => return some (.quantifier ⟨low, some high, false, false⟩, tail)
        | _ => return some (.quantifier ⟨low, some high, true, false⟩, rest)
    | _ => return none
  | '}' :: rest =>
    if lowDigits.isEmpty then return none
    return some (.quantifier ⟨low, some low, true, false⟩, rest)
  | _ => return none

/-- Reads a back reference by name or number, after its opening bracket. -/
def backrefNamed (g : Groups) (close : Char) (s : List Char) :
    Except PatternError (Token × List Char) := do
  let (target, written, level, rest) ← referredName close s
  match target with
  | .name name =>
    match g.find name with
    | [] => .error (.unknownName written)
    | groups => return (.backref groups true level, rest)
  | .absolute n =>
    if n = 0 then .error .unknownBackref else return (.backref [n] false level, rest)
  | .relative n =>
    let k := g.relative n
    if k ≤ 0 then .error .unknownBackref else return (.backref [k.toNat] false level, rest)

/-- Reads a call, after its opening bracket. -/
def called (g : Groups) (close : Char) (s : List Char) :
    Except PatternError (Token × List Char) := do
  let (target, written, rest) ← calledName close s
  match target with
  | .name name => return (.call (.name name) written, rest)
  | .absolute n => return (.call (.number n) written, rest)
  | .relative n =>
    let k := g.relative n
    if k < 0 then .error (.unknownGroup written)
    else return (.call (.number k.toNat) written, rest)

/-- Reads an escape that begins with a digit other than zero: a back reference if there can
be such a group, else a character by its octal number, else the digit itself. -/
def numbered (g : Groups) (s : List Char) : Token × List Char :=
  let (ds, rest) := digits s
  let n := digitsValue 10 ds
  -- One digit is a reference even if there is no such group yet.
  if n ≤ 1000 ∧ (n ≤ g.count ∨ n ≤ 9) then (.backref [n] false none, rest)
  else
    match s with
    | '8' :: r => (.char '8', r)
    | '9' :: r => (.char '9', r)
    | _ =>
      let (os, tail) := spanAtMost isOctalDigit 3 s
      (.byte (digitsValue 8 os % 256), tail)

/-- Reads an escape for a character by its hexadecimal number, after the `x`. -/
def hexadecimal (s : List Char) : Except PatternError (Token × List Char) :=
  match s with
  | [] => .ok (.char 'x', [])
  | '{' :: r => do
    match ← bracedCode 16 isHexDigit 8 false r with
    | none => return (.char 'x', s)
    | some (n, tail, rest) =>
      -- The code points that remain are read as an escape of their own.
      let rest := if tail = .last then rest else '\\' :: 'x' :: '{' :: rest
      if 0x10FFFF < n then .error .codePoint else return (.code n, rest)
  | _ =>
    let (ds, rest) := spanAtMost isHexDigit 2 s
    .ok (.byte (digitsValue 16 ds), rest)

/-- Reads an escape for a character by its octal number in braces, after the `o`. -/
def octal (s : List Char) : Except PatternError (Token × List Char) :=
  match s with
  | '{' :: r => do
    match ← bracedCode 8 isOctalDigit 11 false r with
    | none => return (.char 'o', s)
    | some (n, tail, rest) =>
      let rest := if tail = .last then rest else '\\' :: 'o' :: '{' :: rest
      if 0x10FFFF < n then .error .codePoint else return (.code n, rest)
  | _ => .ok (.char 'o', s)

/-- Reads an escape for a character by exactly four hexadecimal digits, after the `u`. -/
def fourDigits (s : List Char) : Except PatternError (Token × List Char) :=
  if s.isEmpty then .ok (.char 'u', [])
  else
    let (ds, rest) := spanAtMost isHexDigit 4 s
    if ds.length < 4 then .error .codePoint else .ok (.code (digitsValue 16 ds), rest)

/-- Reads an escape, after the backslash. -/
def escape (o : Options) (g : Groups) (s : List Char) :
    Except PatternError (Token × List Char) :=
  match s with
  | [] => .error .endAtEscape
  | c :: r =>
    let ascii := o.wordAscii || o.posixAscii
    match c with
    | 'w' => .ok (.property .wordPart false, r)
    | 'W' => .ok (.property .wordPart true, r)
    | 'd' => .ok (.property .digit false, r)
    | 'D' => .ok (.property .digit true, r)
    | 's' => .ok (.property .space false, r)
    | 'S' => .ok (.property .space true, r)
    | 'h' => .ok (.property .xdigit false, r)
    | 'H' => .ok (.property .xdigit true, r)
    | 'b' => .ok (.anchor (.wordEdge false ascii), r)
    | 'B' => .ok (.anchor (.wordEdge true ascii), r)
    | 'y' => .ok (.anchor (.clusterEdge false), r)
    | 'Y' => .ok (.anchor (.clusterEdge true), r)
    | 'A' => .ok (.anchor .textStart, r)
    | 'Z' => .ok (.anchor .lastLineEnd, r)
    | 'z' => .ok (.anchor .textEnd, r)
    | 'G' => .ok (.anchor .searchStart, r)
    | 'K' => .ok (.keep, r)
    | 'R' => .ok (.lineBreak, r)
    | 'N' => .ok (.notNewline, r)
    | 'O' => .ok (.everything, r)
    | 'X' => .ok (.cluster, r)
    | 'x' => hexadecimal r
    | 'u' => fourDigits r
    | 'o' => octal r
    | '0' =>
      let (os, rest) := spanAtMost isOctalDigit 2 r
      .ok (.byte (digitsValue 8 os), rest)
    | 'k' =>
      match r with
      | '<' :: t => backrefNamed g '>' t
      | '\'' :: t => backrefNamed g '\'' t
      | _ => .ok (.char 'k', r)
    | 'g' =>
      match r with
      | '<' :: t => called g '>' t
      | '\'' :: t => called g '\'' t
      | _ => .ok (.char 'g', r)
    | 'p' | 'P' =>
      match r with
      | '{' :: t => do
        let (p, negated, rest) ← propertyName (c == 'P') t
        return (.namedProperty p negated, rest)
      | _ => .ok (.char c, r)
    | _ =>
      -- `0` has been dealt with.
      if c.isDigit then .ok (numbered g s)
      else do
        let (n, rest) ← escapedValue s
        if n = c.toNat then return (.char c, r) else return (.code n, rest)

/-- Reads the next token of a pattern. -/
def next (o : Options) (g : Groups) (s : List Char) :
    Except PatternError (Token × List Char) := do
  match ← skipIgnored o.extended .pattern s with
  | [] => return (.stop, [])
  | c :: r =>
    match c with
    | '\\' => escape o g r
    | '.' => return (.dot, r)
    | '*' => return suffixed 0 none r
    | '+' => return suffixed 1 none r
    | '?' => return suffixed 0 (some 1) r
    | '{' =>
      match ← interval r with
      | some token => return token
      | none => return (.char '{', r)
    | '|' => return (.bar, r)
    | '(' => return (.openGroup, r)
    | ')' => return (.closeGroup, r)
    | '[' => return (.openClass, r)
    | '^' => return (.anchor .lineStart, r)
    | '$' => return (.anchor .lineEnd, r)
    | _ => return (.char c, r)

end Token

end Highlight.Regex
