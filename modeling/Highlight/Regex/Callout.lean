import Highlight.Regex.Token

/-!
# `Highlight.Regex.Callout`: callouts inside a pattern

A callout is a named action in a pattern, such as `(*FAIL)`, or a piece of foreign text, such
as `(?{text})`. The first kind has a small fixed list of names. The second kind has no effect
on matching, but must be well formed.

Four names act on the match. `FAIL` does not match, and `MISMATCH` gives up the attempt, so that
the search goes on at the next position. `ERROR` breaks off the search, unless its argument is the
number of a mismatch. `MAX` counts. The other names always succeed. Of these, `SKIP` has an effect
on the engine that it does not have here: after a failed attempt, the engine may pass over
positions where a search of `Highlight.Regex.Search` makes an attempt.
-/

set_option autoImplicit false

namespace Highlight.Regex.Callout

/-- The kind of an argument of a callout. -/
inductive ArgumentKind where
  | number
  /-- A number, or the tag of another callout -/
  | numberOrTag
  /-- A single character -/
  | char
  /-- Any text -/
  | text
  deriving DecidableEq, Repr

/-- The known callouts with the kinds of their arguments and the number of arguments that can
be left out. -/
def known : List (String × List ArgumentKind × Nat) := [
  ("FAIL", [], 0),
  ("MISMATCH", [], 0),
  ("SKIP", [], 0),
  ("MAX", [.numberOrTag, .char], 1),
  ("ERROR", [.number], 1),
  ("COUNT", [.char], 1),
  ("TOTAL_COUNT", [.char], 1),
  ("CMP", [.numberOrTag, .text, .numberOrTag], 0)]

/-- Whether the text can be the name or the tag of a callout. -/
def isName (name : List Char) : Bool :=
  match name with
  | [] => false
  | c :: _ => !c.isDigit && name.all fun x => x.isAlphanum || x == '_'

/-- Whether the text writes a number. -/
def isNumber (s : List Char) : Bool :=
  match s with
  | '-' :: ds => !ds.isEmpty && ds.all Char.isDigit
  | _ => !s.isEmpty && s.all Char.isDigit

/-- Whether an argument is of a kind. -/
def ArgumentKind.accepts : ArgumentKind → List Char → Bool
  | .number, s => isNumber s
  | .numberOrTag, s => isNumber s || isName s
  | .char, s => s.length == 1
  | .text, _ => true

/-- Cuts the arguments between braces at their commas, up to the closing brace. A backslash
takes the character after it as it is. Empty arguments do not count. -/
def arguments : List Char → List Char → Except PatternError (List (List Char) × List Char)
  | _, [] => .error .endInGroup
  | current, '\\' :: c :: r => arguments (current ++ [c]) r
  | current, c :: r =>
    if c = '}' then .ok (if current.isEmpty then [] else [current], r)
    else if c = ',' then do
      let (rest, tail) ← arguments [] r
      return (if current.isEmpty then rest else current :: rest, tail)
    else arguments (current ++ [c]) r

/-- Reads a tag in brackets, after the opening bracket, with the closing bracket. -/
def tag (s : List Char) : Except PatternError (List Char) :=
  let (name, after) := s.span (· != ']')
  if !isName name then .error .calloutTag
  else
    match after with
    | [] => .error .endInGroup
    | _ :: rest => .ok rest

/-- The number that decimal digits write. -/
def digitsValue (ds : List Char) : Nat := ds.foldl (fun n d => n * 10 + (d.toNat - '0'.toNat)) 0

/-- The node of a named callout. `counter` tells counting callouts apart. An error with the number
of a mismatch, which is -1, is a mismatch. -/
def node (name : String) (args : List (List Char)) (counter : Nat) : Node :=
  match name, args with
  | "FAIL", _ => .never
  | "MISMATCH", _ => .abandon
  | "ERROR", ('-' :: ds) :: _ => if digitsValue ds = 1 then .abandon else .halt
  | "ERROR", _ => .halt
  | "MAX", most :: _ =>
    if most.all Char.isDigit then .checkpoint counter (some (digitsValue most))
    else .checkpoint counter none
  | _, _ => .checkpoint counter none

/-- Reads a tag if there is one. -/
def optionalTag (s : List Char) : Except PatternError (List Char) :=
  match s with
  | '[' :: r => tag r
  | _ => .ok s

/-- Reads arguments if there are any. -/
def optionalArguments (s : List Char) : Except PatternError (List (List Char) × List Char) :=
  match s with
  | '{' :: r => arguments [] r
  | _ => .ok ([], s)

/-- The node of the known callout with a name, if the arguments are right and a parenthesis
closes it. -/
def ofName (counter : Nat) (name : String) (args : List (List Char)) (after : List Char) :
    Except PatternError (Node × List Char) :=
  match known.find? fun entry => entry.1 == name with
  | none => .error .unknownCallout
  | some (name, kinds, optional) =>
    if kinds.length < args.length || args.length + optional < kinds.length then
      .error .calloutArguments
    else if !(kinds.zip args).all fun (kind, arg) => kind.accepts arg then
      .error .calloutArguments
    else
      match after with
      | [] => .error .endInGroup
      | c :: rest => if c = ')' then .ok (node name args counter, rest) else .error .callout

/-- Reads a named callout after `(*`, with the closing parenthesis. -/
def named (counter : Nat) (s : List Char) : Except PatternError (Node × List Char) :=
  let (name, after) := s.span fun c => c != ')' && c != '[' && c != '{'
  match after with
  | [] => .error .endInGroup
  | _ =>
    if !isName name then .error .calloutName
    else do
      let after ← optionalTag after
      let (args, after) ← optionalArguments after
      ofName counter (String.ofList name) args after

/-- Skips foreign text up to as many closing braces in a row as there were opening ones. -/
def skipText (nesting : Nat) : Nat → List Char → Except PatternError (List Char)
  | _, [] => .error .callout
  | open', c :: r =>
    if c = '}' then
      match open' with
      | 0 => .ok r
      | k + 1 => skipText nesting k r
    else skipText nesting nesting r

/-- Reads foreign text after `(?{`, with the closing parenthesis. -/
def foreign (s : List Char) : Except PatternError (List Char) := do
  let nesting := (s.takeWhile (· == '{')).length
  let after ← skipText nesting nesting (s.drop nesting)
  let after ← match after with
    | [] => .error .endInGroup
    | '[' :: r => tag r
    | _ => pure after
  let after ← match after with
    | [] => .error .endInGroup
    | 'X' :: r | '<' :: r | '>' :: r => if r.isEmpty then .error .endInGroup else pure r
    | _ => pure after
  match after with
  | ')' :: rest => return rest
  | _ => .error .callout

end Highlight.Regex.Callout
