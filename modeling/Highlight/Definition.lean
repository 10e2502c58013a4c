import Highlight.Json.Record
import Highlight.Language

/-!
# `Highlight.Definition`: languages as they are written in files

A definition is a JSON record with a name, other names, file name extensions and rules. All but
the name can be left out. A rule has a name, which is its style, a pattern, and possibly the name
of its group.

`Definition.toLanguage` gives a group to each rule without one. Its name begins with the position
of the rule, so that rules of equal style have different groups, and checks the rules.
-/

set_option autoImplicit false

namespace Highlight

/-- A rule as it is written in a file. -/
structure RuleDefinition where
  style : String
  pattern : String
  /-- The group name, if there is one -/
  group : Option String
  deriving DecidableEq, Repr

/-- A language as it is written in a file. Nothing has been checked beyond the form of the file. -/
structure Definition where
  name : String
  /-- Other names -/
  aliases : List String
  /-- File name extensions -/
  fileTypes : List String
  rules : List RuleDefinition
  deriving DecidableEq, Repr

/-- A file, as far as reading it goes. Whether it has a text is another matter: its bytes may be
any. -/
inductive File where
  | content (bytes : List UInt8)
  /-- There is no file -/
  | missing
  | directory
  deriving DecidableEq, Repr

namespace RuleDefinition

/-- The group name of the rule at an index, unless it has one of its own. The index keeps rules of
one style apart, and the letter in front lets the name begin as a group name has to. -/
def derivedGroup (index : Nat) (style : String) : String :=
  "r" ++ toString index ++ "_" ++ GroupName.ofText style

/-- The rule at an index. A group that is given is taken as it is, and is checked with the others
later. -/
def toRule (index : Nat) (r : RuleDefinition) : Rule :=
  ⟨r.style, r.pattern, r.group.getD (derivedGroup index r.style)⟩

/-- The fields of a rule that have been read. -/
structure Draft where
  name : Option String
  pattern : Option String
  group : Option (Option String)

/-- The record of a rule. -/
def record : Json.Record Draft where
  name := "RawRule"
  blank := ⟨none, none, none⟩
  fields := [
    ⟨"name", true, true, (·.name.isSome), fun d => do
      return { d with name := some (← Json.Reader.stringValue "a string") }⟩,
    ⟨"pattern", true, true, (·.pattern.isSome), fun d => do
      return { d with pattern := some (← Json.Reader.stringValue "a string") }⟩,
    ⟨"group", false, false, (·.group.isSome), fun d => do
      return { d with group := some (← Json.Reader.optionalString) }⟩]

/-- The rule that the fields make up. -/
def ofDraft (d : Draft) : RuleDefinition :=
  ⟨d.name.getD "", d.pattern.getD "", d.group.join⟩

/-- Reads a rule. -/
def reader : Json.Reader RuleDefinition := do
  return ofDraft (← record.read)

end RuleDefinition

namespace Definition

/-- The fields of a definition that have been read. -/
structure Draft where
  name : Option String
  /-- Other names -/
  aliases : Option (List String)
  /-- File name extensions -/
  fileTypes : Option (List String)
  rules : Option (List RuleDefinition)

/-- Reads a list of strings. -/
def stringList : Json.Reader (List String) :=
  Json.Reader.listValue (Json.Reader.stringValue "a string")

/-- The record of a definition. Only the name has to be there. In a list the fields have this order,
and in an object they may have any. -/
def record : Json.Record Draft where
  name := "RawLanguage"
  blank := ⟨none, none, none, none⟩
  fields := [
    ⟨"name", true, true, (·.name.isSome), fun d => do
      return { d with name := some (← Json.Reader.stringValue "a string") }⟩,
    ⟨"aliases", false, false, (·.aliases.isSome), fun d => do
      return { d with aliases := some (← stringList) }⟩,
    ⟨"fileTypes", false, false, (·.fileTypes.isSome), fun d => do
      return { d with fileTypes := some (← stringList) }⟩,
    ⟨"rules", false, false, (·.rules.isSome), fun d => do
      return { d with rules := some (← Json.Reader.listValue RuleDefinition.reader) }⟩]

/-- The definition that the fields make up. -/
def ofDraft (d : Draft) : Definition :=
  ⟨d.name.getD "", d.aliases.getD [], d.fileTypes.getD [], d.rules.getD []⟩

/-- Reads a definition. -/
def reader : Json.Reader Definition := do
  return ofDraft (← record.read)

/-- Reads a definition from a text. All of the text has to be one value, but for blanks around
it. -/
def ofText (text : String) : Except Error Definition :=
  match reader.run .whole (Json.Symbol.ofChars text.toList) with
  | .ok d => .ok d
  | .error e => .error (.json e)

/-- Reads a definition from a file. That there is no file is a fault of the file. A directory can be
opened, and turns out not to be readable when the first byte is asked for, which is a fault of the
text. -/
def ofFile : File → Except Error Definition
  | .missing => .error (.io .notFound)
  | .directory => .error (.json (.unplaced .directory))
  | .content bytes =>
    match reader.run .stream (Json.Symbol.ofBytes bytes) with
    | .ok d => .ok d
    | .error e => .error (.json e)

/-- The language that is defined. Rules are checked before their names and file types are added,
which are taken as they are. -/
def toLanguage (d : Definition) : Except Error Language := do
  let l ← Language.ofRules d.name (d.rules.mapIdx RuleDefinition.toRule)
  return (l.withAliases d.aliases).withFileTypes d.fileTypes

end Definition

end Highlight
