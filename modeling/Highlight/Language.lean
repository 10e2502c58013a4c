import Highlight.Error
import Highlight.Rule

/-!
# `Highlight.Language`: named lists of rules

A language is an ordered list of rules: where several of them match, the first one wins.
`Language.ofRules` accepts a list if every rule has a style, and the group names are well formed
and different. Otherwise it blames the first rule with a fault. The patterns are not looked at.
-/

set_option autoImplicit false

namespace Highlight

/-- A named list of rules. It may have been checked by `ofRules` or not: the type does not say
so. -/
structure Language where
  name : String
  /-- Other names for it -/
  aliases : List String
  /-- The file name extensions that it applies to, without the dot -/
  fileTypes : List String
  /-- The rules, the most important first -/
  rules : List Rule
  deriving DecidableEq, Repr

namespace Language

/-- Checks rules in their order. `seen` are the group names of the `index` rules before them. The
style is looked at first, then the form of the group name, and then whether it was used before. -/
def checkRules (name : String) : Nat → List String → List Rule → Except Error Unit
  | _, _, [] => .ok ()
  | index, seen, r :: rs =>
    if r.style.isEmpty then .error (.emptyStyle name index)
    else if !GroupName.isValid r.group then .error (.invalidGroup name r.group)
    else if seen.contains r.group then .error (.duplicateGroup name r.group)
    else checkRules name (index + 1) (r.group :: seen) rs

/-- The language with the given rules, in their order. It has no other names and no file types,
which can be given to it afterwards. -/
def ofRules (name : String) (rules : List Rule) : Except Error Language := do
  checkRules name 0 [] rules
  return ⟨name, [], [], rules⟩

/-- A language without rules. There is nothing to check about it. -/
def empty (name : String) : Language := ⟨name, [], [], []⟩

/-- The language with other names. -/
def withAliases (l : Language) (aliases : List String) : Language :=
  { l with aliases := aliases }

/-- The language with file name extensions. -/
def withFileTypes (l : Language) (fileTypes : List String) : Language :=
  { l with fileTypes := fileTypes }

/-- Whether there are no rules. -/
def isEmpty (l : Language) : Bool := l.rules.isEmpty

/-- A pattern that matches nowhere. What has to follow is what must not follow. -/
def neverPattern : String := "(?!x)x"

/-- The patterns of all rules in one, each in its group. They are alternatives in the order of the
rules, so the first rule that matches comes first. Without rules it is the pattern that matches
nowhere, as an alternation of nothing would match everywhere. -/
def combined (l : Language) : String :=
  if l.isEmpty then neverPattern
  else "|".intercalate (l.rules.map Rule.wrapped)

end Language

end Highlight
