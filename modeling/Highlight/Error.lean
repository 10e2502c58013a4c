import Highlight.Json.Error
import Highlight.Regex.Error

/-!
# `Highlight.Error`: what can go wrong

Every operation that can fail yields an `Error`: a file that cannot be read, a definition that
is not well formed, rules that do not fit together, a pattern that cannot be used, or a language
that nobody has added. `Error.message` is its wording. The first two kinds have a `source?`, the
wording of what lies behind them.

`Error.endless` is of another kind. The program has no such error: it does not come back from a
scan that goes on forever, and it breaks down when the engine breaks off a search. The functions
here are total, so they have to yield something in its place. Its wording is there for the same
reason, and nobody gets to read it.
-/

set_option autoImplicit false

namespace Highlight

/-- A reason why a file has no text. -/
inductive FileError where
  /-- There is no such file -/
  | notFound
  /-- The path is that of a directory -/
  | isDirectory
  /-- The bytes are not those of a text -/
  | notText
  deriving DecidableEq, Repr

namespace FileError

/-- The wording of a file error. -/
def message : FileError → String
  | notFound => "No such file or directory (os error 2)"
  | isDirectory => "Is a directory (os error 21)"
  | notText => "stream did not contain valid UTF-8"

/-- The parts of a file error, as shown when a program ends with it. -/
def details : FileError → String
  | notFound =>
    "Os \x7b code: 2, kind: NotFound, message: \"No such file or directory\" \x7d"
  | isDirectory =>
    "Os \x7b code: 21, kind: IsADirectory, message: \"Is a directory\" \x7d"
  | notText =>
    "Error \x7b kind: InvalidData, message: \"stream did not contain valid UTF-8\" \x7d"

end FileError

/-- A reason why a pattern cannot be used. The first one is found by the engine, the other one
afterwards. -/
inductive PatternFault where
  /-- It is not well formed -/
  | malformed (e : Regex.PatternError)
  /-- The group of a rule is not there once all rules have been combined -/
  | groupMissing
  deriving DecidableEq, Repr

namespace PatternFault

/-- The wording of a fault. -/
def message : PatternFault → String
  | malformed e => "Oniguruma error: " ++ e.text
  | groupMissing => "group missing from the combined pattern"

end PatternFault

/-- What can go wrong. -/
inductive Error where
  /-- A file has no text -/
  | io (e : FileError)
  /-- A text is not the JSON text that it should be -/
  | json (e : Json.Error)
  /-- A pattern cannot be used. The group is that of the rule to blame, if it is one rule. -/
  | invalidPattern (language : String) (group : Option String) (fault : PatternFault)
  /-- A group name of a rule is also used elsewhere -/
  | duplicateGroup (language group : String)
  /-- A group name is not well formed -/
  | invalidGroup (language group : String)
  /-- The rule at an index has no style name -/
  | emptyStyle (language : String) (index : Nat)
  /-- There is no language with a name -/
  | unknownLanguage (name : String)
  /-- The rules of a language do not get to the end of a text. It stands for no answer: for a scan
  that goes on forever, or a search that the engine breaks off. -/
  | endless (language : String)
  deriving DecidableEq, Repr

namespace Error

/-- A name between single quotes. -/
def named (name : String) : String := "'" ++ name ++ "'"

/-- The wording of an error. Names stand between single quotes as they are, whatever they
contain. -/
def message : Error → String
  | io e => "I/O error: " ++ e.message
  | json e => "JSON parsing error: " ++ e.message
  | invalidPattern language (some group) fault =>
    "invalid pattern for rule " ++ named group ++ " in language " ++ named language ++ ": "
      ++ fault.message
  | invalidPattern language none fault =>
    "invalid pattern in language " ++ named language ++ ": " ++ fault.message
  | duplicateGroup language group =>
    "duplicate group name " ++ named group ++ " in language " ++ named language
  | invalidGroup language group =>
    "invalid group name " ++ named group ++ " in language " ++ named language
  | emptyStyle language index =>
    "rule #" ++ toString index ++ " in language " ++ named language ++ " has no style name"
  | unknownLanguage name => "language " ++ named name ++ " not found"
  | endless language =>
    "the rules of language " ++ named language ++ " do not get to the end of the text"

/-- The wording of what lies behind an error. Only errors of files and of JSON texts have something
behind them. -/
def source? : Error → Option String
  | io e => some e.message
  | json e => some e.message
  | _ => none

/-- A value with named parts, as shown when a program ends with it. The braces are escaped here, and
are braces in the text. -/
def parts (name : String) (fields : List (String × String)) : String :=
  name ++ " \x7b " ++ ", ".intercalate (fields.map fun f => f.1 ++ ": " ++ f.2) ++ " \x7d"

/-- The parts of an error, as shown when a program ends with it. -/
def details : Error → String
  | io e => "Io(" ++ e.details ++ ")"
  | json e => "Json(" ++ e.details ++ ")"
  | invalidPattern language group fault =>
    parts "InvalidPattern" [
      ("language", Text.quoted language),
      ("group", match group with
        | some g => "Some(" ++ Text.quoted g ++ ")"
        | none => "None"),
      ("message", Text.quoted fault.message)]
  | duplicateGroup language group =>
    parts "DuplicateGroupName"
      [("language", Text.quoted language), ("group", Text.quoted group)]
  | invalidGroup language group =>
    parts "InvalidGroupName"
      [("language", Text.quoted language), ("group", Text.quoted group)]
  | emptyStyle language index =>
    parts "EmptyStyleName"
      [("language", Text.quoted language), ("index", toString index)]
  | unknownLanguage name => "LanguageNotFound(" ++ Text.quoted name ++ ")"
  | endless language => "Endless(" ++ Text.quoted language ++ ")"

end Error

end Highlight
