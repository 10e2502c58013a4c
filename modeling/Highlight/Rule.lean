/-!
# `Highlight.Rule`: rules and their group names

A rule gives a style to the text that its pattern matches. Once the rules of a language have
been combined into one pattern, the rule is found by the name of the group around its own
pattern. A group name has the form `[A-Za-z_][A-Za-z0-9_]*`.

`GroupName.ofText` makes a group name of any text, and leaves a group name as it is.
-/

set_option autoImplicit false

namespace Highlight

namespace GroupName

/-- Whether a character can stand in a group name. These are the letters and digits of ASCII and the
underscore, and no letter of another alphabet. -/
def isPart (c : Char) : Bool := c.isAlphanum || c == '_'

/-- Whether a character can stand at the start of a group name. A digit cannot, since what begins
with one is taken for the number of a group. -/
def isStart (c : Char) : Bool := c.isAlpha || c == '_'

/-- Whether a list of characters is a group name. It has at least one character. -/
def isValidChars : List Char → Bool
  | [] => false
  | c :: cs => isStart c && cs.all isPart

/-- Whether a text is a group name. -/
def isValid (s : String) : Bool := isValidChars s.toList

/-- Puts an underscore in front where a group name could not begin as it is. That is so for a digit,
and for no character at all. All other characters have been made parts of a name by then. -/
def withStart : List Char → List Char
  | [] => ['_']
  | c :: cs => if c.isDigit then '_' :: c :: cs else c :: cs

/-- A group name for a text: what cannot stand in one becomes an underscore. So different texts may
get the same name. -/
def ofChars (cs : List Char) : List Char :=
  withStart (cs.map fun c => if isPart c then c else '_')

/-- A group name for a text. -/
def ofText (s : String) : String := String.ofList (ofChars s.toList)

end GroupName

/-- A pattern with the style that it gives. The group is how the rule is found again once its
pattern is a part of a longer one, and has no meaning besides. -/
structure Rule where
  /-- The style of what the pattern matches -/
  style : String
  pattern : String
  /-- The name of the group around the pattern -/
  group : String
  deriving DecidableEq, Repr

namespace Rule

/-- A rule whose group is named after its style. Two rules of one style then have one group name,
which a language does not accept. -/
def named (style pattern : String) : Rule := ⟨style, pattern, GroupName.ofText style⟩

/-- The pattern in its group. The pattern is pasted as it is, so what it leaves open at its end goes
on behind the group. -/
def wrapped (r : Rule) : String := "(?<" ++ r.group ++ ">" ++ r.pattern ++ ")"

end Rule

end Highlight
