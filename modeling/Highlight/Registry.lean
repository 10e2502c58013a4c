import Highlight.Definition
import Highlight.Registry.Bindings
import Highlight.Scan
import Highlight.Unicode.Lowercase

/-!
# `Highlight.Registry`: languages by name

A registry holds languages in slots and finds them by their names, their other names and their
file name extensions. A language takes the place of one with the same name, and every name that
was bound to the old one is unbound first. A name that is already bound goes over to the language
that was added last.

A language is compiled when it is first used, and the pattern is kept until the language is
replaced. Each compilation has a ticket of its own, so two stylers share a pattern exactly if
their tickets are equal. A language that does not compile leaves nothing behind.
-/

set_option autoImplicit false

namespace Highlight

/-- A pattern that several stylers may share. The ticket tells patterns apart that are equal and
were compiled one after the other. -/
structure Styler where
  /-- The number of its compilation -/
  ticket : Nat
  pattern : Pattern
  deriving Repr

namespace Styler

/-- Whether two stylers share one pattern. -/
def sharesPattern (a b : Styler) : Bool := a.ticket == b.ticket

/-- The spans of a text. -/
def spans (s : Styler) (text : String) (options : Options) : Except Error Spans :=
  s.pattern.spans text options

end Styler

/-- Languages by name. A language keeps its slot for good, and only a language of the same name
takes its place. What is kept beside the languages is found by slot. -/
structure Registry where
  /-- The languages, each in its slot -/
  languages : List Language
  /-- The slots by name -/
  names : Bindings
  /-- The slots by file name extension in lower case -/
  fileTypes : Bindings
  /-- The patterns that have been compiled, by slot -/
  compiled : List (Nat × Styler)
  /-- The ticket of the next compilation -/
  nextTicket : Nat
  deriving Repr

namespace Registry

/-- A registry without languages. -/
def empty : Registry := ⟨[], .empty, .empty, [], 0⟩

/-- The name of the language that styles nothing. -/
def plainName : String := "plain"

/-- The slot of the language whose own name is the given one. Other names do not count here, so a
language is not replaced by one that has its name as another name. -/
def slotOf? (r : Registry) (name : String) : Option Nat :=
  r.languages.findIdx? fun l => l.name == name

/-- Empties a slot for a language that takes the place of the one there. All that leads to the slot
goes: names, also those that were given later, file name extensions, and the compiled pattern. -/
def replaceSlot (r : Registry) (slot : Nat) (l : Language) : Registry :=
  { r with
    languages := r.languages.set slot l
    names := r.names.unbindSlot slot
    fileTypes := r.fileTypes.unbindSlot slot
    compiled := r.compiled.filter fun e => e.1 != slot }

/-- Binds the names and file name extensions of a language to its slot, its own name last. Names
that lead elsewhere are taken over, even if they are the own name of another language. -/
def bindLanguage (r : Registry) (slot : Nat) (l : Language) : Registry :=
  { r with
    names := (r.names.bindAll l.aliases slot).bind l.name slot
    fileTypes := r.fileTypes.bindAll (l.fileTypes.map Unicode.lowercase) slot }

/-- Adds a language. It takes the place of a language with the same name, or else a new slot. It
always succeeds, since its patterns are not looked at before it is used. -/
def addLanguage (r : Registry) (l : Language) : Registry :=
  match r.slotOf? l.name with
  | some slot => (r.replaceSlot slot l).bindLanguage slot l
  | none =>
    { r with languages := r.languages ++ [l] }.bindLanguage r.languages.length l

/-- Adds the language defined in a file. If the file does not define one, nothing is added. -/
def addFile (r : Registry) (f : File) : Except Error Registry := do
  let d ← Definition.ofFile f
  return r.addLanguage (← d.toLanguage)

/-- Adds the language that styles nothing, with other names. Options may ask for it in place of a
language that is not known. -/
def addPlain (r : Registry) (aliases : List String) : Registry :=
  r.addLanguage ((Language.empty plainName).withAliases aliases)

/-- Gives another name to the language with a name, if there is one. Otherwise nothing happens, and
this is not an error. The other name is taken over if it leads elsewhere. -/
def addAlias (r : Registry) (name other : String) : Registry :=
  match r.names.find? name with
  | some slot => { r with names := r.names.bind other slot }
  | none => r

/-- Whether a name is bound. It may be the own name of a language or another one. -/
def contains (r : Registry) (name : String) : Bool := (r.names.find? name).isSome

/-- The language in a slot. -/
def languageAt? (r : Registry) (slot : Nat) : Option Language := r.languages[slot]?

/-- The language with a name. -/
def language? (r : Registry) (name : String) : Option Language :=
  (r.names.find? name).bind r.languageAt?

/-- A file name extension as it is looked up: without dots in front, and in lower case. Extensions
are bound in lower case as well, but with their dots. -/
def normalExtension (extension : String) : String :=
  Unicode.lowercase (String.ofList (extension.toList.dropWhile (· == '.')))

/-- The language for a file name extension, with or without the dot. If several languages declare
it, it is that of the last one. -/
def findByFileType (r : Registry) (extension : String) : Option Language :=
  (r.fileTypes.find? (normalExtension extension)).bind r.languageAt?

/-- The names of all languages in ascending order. Other names are not among them. -/
def languageNames (r : Registry) : List String :=
  (r.languages.map (·.name)).mergeSort fun a b => decide (a ≤ b)

/-- The slot that a name stands for. If the name is not bound, it is that of the plain language,
provided that the options ask for it and that there is one. -/
def resolve (r : Registry) (name : String) (options : Options) : Except Error Nat :=
  match r.names.find? name with
  | some slot => .ok slot
  | none =>
    match if options.toPlain then r.names.find? plainName else none with
    | some slot => .ok slot
    | none => .error (.unknownLanguage name)

/-- The pattern of a slot, compiled now if need be. It is kept if it compiles. If it does not,
nothing is kept, and the next request tries again. -/
def stylerAt (r : Registry) (slot : Nat) (l : Language) : Except Error Styler × Registry :=
  match r.compiled.lookup slot with
  | some s => (.ok s, r)
  | none =>
    match Pattern.ofLanguage l with
    | .error e => (.error e, r)
    | .ok p =>
      let s : Styler := ⟨r.nextTicket, p⟩
      (.ok s, { r with compiled := (slot, s) :: r.compiled, nextTicket := r.nextTicket + 1 })

/-- A styler for the language with a name. It comes with the registry that is left behind, which may
have one more pattern and is the same otherwise. -/
def styler (r : Registry) (name : String) (options : Options) :
    Except Error Styler × Registry :=
  match r.resolve name options with
  | .error e => (.error e, r)
  | .ok slot =>
    match r.languageAt? slot with
    | some l => r.stylerAt slot l
    | none => (.error (.unknownLanguage name), r)

/-- The spans of a text in the language with a name. The pattern is kept for later, also if the scan
of this text fails. -/
def style (r : Registry) (text name : String) (options : Options) :
    Except Error Spans × Registry :=
  match r.styler name options with
  | (.ok s, r) => (s.spans text options, r)
  | (.error e, r) => (.error e, r)

/-- A short description: the names in order, and the number of patterns that are kept. -/
def description (r : Registry) : String :=
  "Registry \x7b languages: [" ++ ", ".intercalate (r.languageNames.map Text.quoted)
    ++ "], compiled: " ++ toString r.compiled.length ++ " \x7d"

end Registry

end Highlight
