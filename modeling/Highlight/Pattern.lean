import Highlight.Language
import Highlight.Regex.Search

/-!
# `Highlight.Pattern`: languages ready for use

`Pattern.ofLanguage` compiles the rules of a language into one pattern. A pattern that fails on
its own is blamed on its rule, the first such rule first. Then the combined pattern must compile,
and each rule must find its group in it exactly once.

`Pattern.find` yields the leftmost match from a position on, and the rule that owns it: the first
one whose group takes part in the match.
-/

set_option autoImplicit false

namespace Highlight

/-- A rule of a compiled language. What is left of it is the number of its group in the combined
pattern, and its style. -/
structure CompiledRule where
  /-- The style that it gives -/
  style : String
  /-- The number of its group -/
  group : Nat
  deriving DecidableEq, Repr

/-- A compiled language. The rules are in the order of the language, so that an index means the same
in both. -/
structure Pattern where
  /-- The name of the language -/
  language : String
  /-- The combined pattern as text -/
  source : String
  /-- The combined pattern -/
  program : Regex.Program
  rules : List CompiledRule
  deriving DecidableEq, Repr

/-- A match of a compiled language. Positions count characters from the beginning of the text. -/
structure Found where
  /-- The index of the rule that owns the match, if there is one -/
  owner : Option Nat
  /-- The position where the match begins -/
  start : Nat
  /-- The position where the match ends -/
  stop : Nat
  deriving DecidableEq, Repr

namespace Pattern

/-- Compiles one pattern. If it cannot be compiled, the language is to blame, and the rule with the
group if there is one. -/
def compile (language : String) (group : Option String) (pattern : String) :
    Except Error Regex.Program :=
  match Regex.Program.ofPattern pattern.toList with
  | .ok p => .ok p
  | .error e => .error (.invalidPattern language group (.malformed e))

/-- Finds the group of a rule in the combined pattern. There has to be one group of that name:
another pattern may have declared the name as well, or the patterns may fit together in such a way
that the group is lost. -/
def compileRule (language : String) (p : Regex.Program) (r : Rule) :
    Except Error CompiledRule :=
  match p.groupsNamed r.group.toList with
  | [g] => .ok ⟨r.style, g⟩
  | [] => .error (.invalidPattern language (some r.group) .groupMissing)
  | _ => .error (.duplicateGroup language r.group)

/-- Compiles a language. Each pattern is first compiled on its own, so that an error can be blamed
on its rule, and the program is thrown away. Then the combined pattern is compiled, and the groups
of the rules are looked up in it. -/
def ofLanguage (l : Language) : Except Error Pattern := do
  for r in l.rules do
    discard (compile l.name (some r.group) r.pattern)
  let p ← compile l.name none l.combined
  let rules ← l.rules.mapM (compileRule l.name p)
  return ⟨l.name, l.combined, p, rules⟩

/-- The style that the rule at an index gives. -/
def style? (p : Pattern) (index : Nat) : Option String :=
  (p.rules[index]?).map (·.style)

/-- A short description. -/
def description (p : Pattern) : String :=
  "CompiledPattern(" ++ p.language ++ ", " ++ toString p.rules.length ++ " rules)"

/-- The rule that owns a match: the first one whose group has a part in it. There is none if the
match goes past the groups of all rules. -/
def ownerOf (p : Pattern) (m : Regex.Match) : Option Nat :=
  p.rules.findIdx? fun r => m.has r.group

/-- The leftmost match from a position on. The search sees the whole text, so a pattern can look at
what stands before the position. A search without an answer is an error. -/
def find (p : Pattern) (text : Array Char) (pos : Nat) : Except Error (Option Found) :=
  match p.program.search text pos with
  | .found m => .ok (some ⟨p.ownerOf m, m.start, m.stop⟩)
  | .missing => .ok none
  | .exhausted => .error (.endless p.language)

end Pattern

end Highlight
