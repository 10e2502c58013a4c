import Highlight.Registry
import Highlight.Span.Json

/-!
# `Highlight.CommandLine`: the program behind the command line

The program takes the path of a definition and of a text, and prints the spans of the text: a
line for each span, or JSON. `Arguments.ofList` reads the arguments, and `runWith` computes what the
program prints and how it ends, from the files that it finds.

An argument that cannot be used ends the program with code 2 before any file is read. After that
the first failure ends it with code 1: of the definition, of the text, of the patterns.

The failure `Error.endless` is the exception. It stands for a run that does not come to an end, so
code 1 and the message are not what anybody would see. `runWith` yields them since it is total.
-/

set_option autoImplicit false

namespace Highlight.CommandLine

/-- What the arguments say. -/
structure Arguments where
  /-- The path of the definition -/
  language : String
  /-- The path of the text -/
  input : String
  unit : LengthUnit
  /-- Whether neighbours of equal style become one span -/
  merge : Bool
  /-- Whether the spans are printed as JSON -/
  json : Bool
  deriving DecidableEq, Repr

/-- The arguments read so far. What can be given once is missing until it is given. -/
structure Draft where
  /-- The path of the definition -/
  language : Option String
  /-- The path of the text -/
  input : Option String
  unit : Option LengthUnit
  /-- Whether to merge -/
  merge : Bool
  /-- Whether to print JSON -/
  json : Bool
  deriving DecidableEq, Repr

/-- An option of the command line. -/
inductive Flag where
  /-- The path of the definition -/
  | language
  /-- The unit of lengths -/
  | unit
  /-- Merging -/
  | merge
  | json
  deriving DecidableEq, Repr

namespace Flag

/-- The option with a long name. -/
def ofLongName? : List Char → Option Flag
  | ['l', 'a', 'n', 'g', 'u', 'a', 'g', 'e'] => some language
  | ['u', 'n', 'i', 't'] => some unit
  | ['m', 'e', 'r', 'g', 'e'] => some merge
  | ['j', 's', 'o', 'n'] => some json
  | _ => none

/-- The option with a letter. -/
def ofLetter? : Char → Option Flag
  | 'l' => some language
  | 'u' => some unit
  | 'm' => some merge
  | _ => none

/-- Whether a value belongs to the option. -/
def takesValue : Flag → Bool
  | language => true
  | unit => true
  | _ => false

end Flag

/-- The unit that a word of the command line stands for. -/
def unitNamed? : String → Option LengthUnit
  | "chars" => some .chars
  | "bytes" => some .bytes
  | "utf16" => some .utf16
  | _ => none

namespace Draft

/-- Nothing yet. -/
def blank : Draft := ⟨none, none, none, false, false⟩

/-- Sets an option that stands alone. It can be given once. -/
def set? (d : Draft) : Flag → Option Draft
  | .merge => if d.merge then none else some { d with merge := true }
  | .json => if d.json then none else some { d with json := true }
  | _ => none

/-- Sets an option to a value. It can be given once. A path is not empty, and a unit is one of the
three. -/
def setValue? (d : Draft) (value : List Char) : Flag → Option Draft
  | .language =>
    if d.language.isSome || value.isEmpty then none
    else some { d with language := some (String.ofList value) }
  | .unit =>
    if d.unit.isSome then none
    else (unitNamed? (String.ofList value)).map fun u => { d with unit := some u }
  | _ => none

/-- Sets the path of the text. It can be given once. -/
def setInput? (d : Draft) (path : String) : Option Draft :=
  if d.input.isSome || path.isEmpty then none else some { d with input := some path }

/-- What has been read, if it is complete. Both paths have to be there, and the unit is characters
if none was given. -/
def complete? (d : Draft) : Option Arguments := do
  return ⟨← d.language, ← d.input, d.unit.getD .chars, d.merge, d.json⟩

end Draft

/-- Whether an argument has the form of an option. A hyphen alone is none, and can be a path. -/
def isOption : List Char → Bool
  | '-' :: _ :: _ => true
  | _ => false

/-- What an argument with options leaves to do: it may wait for the value of its last option. -/
abbrev Pending := Draft × Option Flag

/-- Reads the letters of an argument. The rest of the argument after a letter that takes a value is
the value, with or without an equality sign in front. -/
def readLetters (d : Draft) : List Char → Option Pending
  | [] => some (d, none)
  | c :: cs => do
    let f ← Flag.ofLetter? c
    if f.takesValue then
      match cs with
      | [] => some (d, some f)
      | '=' :: value => do some (← d.setValue? value f, none)
      | value => do some (← d.setValue? value f, none)
    else readLetters (← d.set? f) cs

/-- Reads an option by its long name. A value may follow after an equality sign. -/
def readLong (d : Draft) (cs : List Char) : Option Pending := do
  let f ← Flag.ofLongName? (cs.takeWhile (· != '='))
  match cs.dropWhile (· != '=') with
  | [] => if f.takesValue then some (d, some f) else do some (← d.set? f, none)
  | _ :: value => do some (← d.setValue? value f, none)

/-- Reads paths only. This is so behind two hyphens, where a path may begin with one. -/
def readPaths (d : Draft) : List String → Option Draft
  | [] => some d
  | path :: rest => do readPaths (← d.setInput? path) rest

/-- Reads arguments. `pending` waits for a value, which must not have the form of an option. After
the last argument nothing may wait. -/
def readFrom : Pending → List String → Option Draft
  | (d, none), [] => some d
  | (_, some _), [] => none
  | (d, some f), a :: rest => do
    if isOption a.toList then none
    else readFrom (← d.setValue? a.toList f, none) rest
  | (d, none), a :: rest =>
    match a.toList with
    | ['-', '-'] => readPaths d rest
    | '-' :: '-' :: cs => do readFrom (← readLong d cs) rest
    | '-' :: c :: cs => do readFrom (← readLetters d (c :: cs)) rest
    | _ => do readFrom (← d.setInput? a, none) rest

/-- Reads the arguments of the program. -/
def Arguments.ofList (args : List String) : Option Arguments := do
  (← readFrom (.blank, none) args).complete?

/-- What the program prints and how it ends. -/
structure Result where
  exitCode : Nat
  output : String
  /-- The error output -/
  errors : String
  deriving DecidableEq, Repr

/-- A failure of the program: with a library error, or because the text could not be read. -/
inductive Failure where
  | library (e : Error)
  /-- The text could not be read -/
  | input (e : FileError)
  deriving DecidableEq, Repr

/-- The parts of a failure. -/
def Failure.details : Failure → String
  | library e => e.details
  | input e => e.details

/-- The text of a file. Its bytes have to be those of a text in UTF-8, all of them. -/
def textOf : File → Except FileError String
  | .missing => .error .notFound
  | .directory => .error .isDirectory
  | .content bytes =>
    match Json.Symbol.chars? (Json.Symbol.ofBytes bytes) with
    | some cs => .ok (String.ofList cs)
    | none => .error .notText

/-- Fills a text up with spaces at its end. A text that is long enough is left as it is, and not
cut. -/
def padRight (n : Nat) (s : String) : String :=
  String.ofList (s.toList ++ List.replicate (n - s.length) ' ')

/-- Fills a text up with spaces at its start. Here too nothing is cut. -/
def padLeft (n : Nat) (s : String) : String :=
  String.ofList (List.replicate (n - s.length) ' ' ++ s.toList)

/-- What is printed about a span and its piece of the text, without the line feed. The piece is
quoted, and the style is printed as it is, with a hyphen for none. -/
def entry (s : Span) (piece : String) : String :=
  padRight 20 (s.style.getD "-") ++ padLeft 6 (toString s.len) ++ "  " ++ Text.quoted piece

/-- The line of a span and its piece of the text. -/
def line (s : Span) (piece : String) : String := entry s piece ++ "\n"

/-- The lines of spans and their pieces of the text. There is one for each span, also for one of
length 0. -/
def lines (s : Spans) (text : String) : String :=
  String.join (List.zipWith (fun span piece => line span piece.1) s.spans (s.slices text))

/-- The options that the arguments ask for. -/
def Arguments.options (a : Arguments) : Options :=
  { Options.standard with unit := a.unit, merge := a.merge }

/-- The spans of a text in the language of a definition, with the text. The definition is read
first, then the text, and then the patterns are compiled. The language is asked for by its name, as
any user would. -/
def spansOf (definition text : File) (options : Options) :
    Except Failure (Spans × String) := do
  let r ← Except.mapError .library (Registry.empty.addFile definition)
  let name := r.languageNames.headD ""
  let s ← Except.mapError .input (textOf text)
  let spans ← Except.mapError .library (r.style s name options).1
  return (spans, s)

/-- What the program prints when all goes well: JSON with a line for each value, or the lines. -/
def render (json : Bool) (s : Spans) (text : String) : String :=
  if json then s.toPrettyJson ++ "\n" else lines s text

/-- Runs the program with arguments on files. It prints all or nothing: what fails is found out
before the first line is printed. -/
def runWith (a : Arguments) (definition text : File) : Result :=
  match spansOf definition text a.options with
  | .ok (s, t) => ⟨0, render a.json s t, ""⟩
  | .error e => ⟨1, "", "Error: " ++ e.details ++ "\n"⟩

/-- How the program is used. -/
def usage : String :=
  "usage: --language <DEFINITION> [--unit chars|bytes|utf16] [--merge] [--json] <INPUT>\n"

/-- What the program does if the arguments cannot be used. -/
def refused : Result := ⟨2, "", usage⟩

end Highlight.CommandLine
