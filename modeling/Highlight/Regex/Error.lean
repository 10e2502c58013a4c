/-!
# `Highlight.Regex.Error`: what can be wrong with a pattern

Each constructor of `PatternError` is one cause for rejecting a pattern. `PatternError.text`
is the wording shown to the user, with the offending name where there is one.
-/

set_option autoImplicit false

namespace Highlight.Regex

/-- A reason to reject a pattern. -/
inductive PatternError where
  -- The pattern ends after a backslash, or inside a meta or control escape.
  | endAtEscape | endAtMeta | endAtControl
  -- A meta or control escape lacks its hyphen.
  | metaCode | controlCode
  | unclosedClass | emptyClass
  -- A range of a class has a set at one of its ends, or ends before it starts.
  | setAtRangeEnd | setAtRangeStart | emptyRange
  -- There is an unknown name between `[:` and `:]`.
  | unknownBracket
  | nothingToRepeat
  -- A quantifier follows something that has no length, such as an anchor.
  | unrepeatable
  | repeatTooBig
  | unopenedGroup | unclosedGroup
  -- The pattern ends inside the head of a group.
  | endInGroup
  -- The letter after `(?` is unknown, or cannot stand there.
  | unknownGroupOption | misplacedGroupOption
  -- A look-behind holds what it must not.
  | lookBehind
  | numberTooBig | codePointTooLong
  -- There is no such code point, or its bytes stop inside it.
  | codePoint | truncatedBytes
  | unknownBackref
  -- A reference by number stands beside named groups.
  | numberedReference
  -- There is no name between the brackets, or one that no group can have.
  | emptyGroupName
  | groupName (name : List Char)
  | groupNameChar (name : List Char)
  -- No group has the name or the number, or a called name belongs to several groups.
  | unknownName (name : List Char)
  | unknownGroup (name : List Char)
  | ambiguousCall (name : List Char)
  -- A group calls itself without end.
  | endlessRecursion
  | unknownProperty (name : List Char)
  | tooManyGroups | tooDeep
  -- A conditional has no branches.
  | conditional
  -- A callout, its name, its arguments or its tag are not well formed, or the name is unknown.
  | callout | calloutName | unknownCallout | calloutArguments | calloutTag
  deriving DecidableEq, Repr

namespace PatternError

/-- A name between angle brackets. -/
def angled (name : List Char) : String :=
  "<" ++ String.ofList name ++ ">"

/-- The wording of the error. -/
def text : PatternError → String
  | endAtEscape => "end pattern at escape"
  | endAtMeta => "end pattern at meta"
  | endAtControl => "end pattern at control"
  | metaCode => "invalid meta-code syntax"
  | controlCode => "invalid control-code syntax"
  | unclosedClass => "premature end of char-class"
  | emptyClass => "empty char-class"
  | setAtRangeEnd => "char-class value at end of range"
  | setAtRangeStart => "unmatched range specifier in char-class"
  | emptyRange => "empty range in char class"
  | unknownBracket => "invalid POSIX bracket type"
  | nothingToRepeat => "target of repeat operator is not specified"
  | unrepeatable => "target of repeat operator is invalid"
  | repeatTooBig => "too big number for repeat range"
  | unopenedGroup => "unmatched close parenthesis"
  | unclosedGroup => "end pattern with unmatched parenthesis"
  | endInGroup => "end pattern in group"
  | unknownGroupOption => "undefined group option"
  | misplacedGroupOption => "invalid group option"
  | lookBehind => "invalid pattern in look-behind"
  | numberTooBig => "too big number"
  | codePointTooLong => "too long wide-char value"
  | codePoint => "invalid code point value"
  | truncatedBytes => "too short multibyte string"
  | unknownBackref => "invalid backref number/name"
  | numberedReference => "numbered backref/call is not allowed. (use name)"
  | emptyGroupName => "group name is empty"
  | groupName name => "invalid group name " ++ angled name
  | groupNameChar name => "invalid char in group name " ++ angled name
  | unknownName name => "undefined name " ++ angled name ++ " reference"
  | unknownGroup name => "undefined group " ++ angled name ++ " reference"
  | ambiguousCall name => "multiplex definition name " ++ angled name ++ " call"
  | endlessRecursion => "never ending recursion"
  | unknownProperty name =>
    "invalid character property name \x7b" ++ String.ofList name ++ "\x7d"
  | tooManyGroups => "too many capture groups are specified"
  | tooDeep => "parse depth limit over"
  | conditional => "invalid if-else syntax"
  | callout => "invalid callout pattern"
  | calloutName => "invalid callout name"
  | unknownCallout => "undefined callout name"
  | calloutArguments => "invalid callout arg"
  | calloutTag => "invalid callout tag name"

end PatternError

end Highlight.Regex
