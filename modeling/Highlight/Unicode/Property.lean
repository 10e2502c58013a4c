import Highlight.Unicode.Category
import Highlight.Unicode.Script.Runs
import Highlight.Unicode.Ranges

/-!
# `Highlight.Unicode.Property`: sets of characters with a name

* `Property.holds p c` says whether the code point `c` has the property `p`.
* `Property.named? name` finds a property by its name. Case, blanks, hyphens and underscores
  in the name do not count.
* `Property.bracket? name` finds the properties that a bracket such as `[:alpha:]` can name.
  The bracket `punct` holds symbols as well, while the property `Punct` does not.
-/

set_option autoImplicit false

namespace Highlight.Unicode

/-- A named set of code points. -/
inductive Property where
  /-- Letters, marks that act as letters, and decimal digits -/
  | alnum
  /-- Letters, letter numbers and what else counts as alphabetic -/
  | alpha
  /-- The tabulator and the space separators -/
  | blank
  /-- Control codes -/
  | cntrl
  /-- Decimal digits of every script -/
  | digit
  /-- Visible characters -/
  | graph
  /-- Small letters -/
  | lower
  /-- Visible characters and space separators -/
  | print
  /-- Punctuation and symbols -/
  | punct
  /-- White space -/
  | space
  /-- Capital letters -/
  | upper
  /-- The ASCII hexadecimal digits -/
  | xdigit
  /-- Letters, marks, decimal digits and connector punctuation -/
  | word
  /-- What has no word boundary inside -/
  | wordPart
  /-- The first 128 code points -/
  | ascii
  /-- Every code point -/
  | any
  /-- Every code point that has a meaning -/
  | assigned
  /-- The code points of some general categories -/
  | category (cs : List Category)
  /-- The code points of the script at a position of `Script.names` -/
  | script (index : Nat)
  /-- The code points of the inclusive ranges and of some general categories -/
  | ranges (rs : Array (Nat × Nat)) (cs : List Category)
  deriving DecidableEq, Repr

namespace Property

/-- Whether the code point is alphabetic. -/
def isAlphabetic (c : Nat) : Bool :=
  if c < 0x80 then decide (0x41 ≤ c ∧ c ≤ 0x5A ∨ 0x61 ≤ c ∧ c ≤ 0x7A)
  else
    let cat := Category.of c
    Category.letters.contains cat || cat == .nl ||
      (Category.marks.contains cat && inRanges Ranges.alphabeticMarks c) ||
      inRanges Ranges.alphabeticSymbols c

/-- Whether the code point is a decimal digit. -/
def isDigit (c : Nat) : Bool :=
  if c < 0x80 then decide (0x30 ≤ c ∧ c ≤ 0x39) else Category.of c == .nd

/-- Whether the code point is white space. -/
def isSpace (c : Nat) : Bool :=
  if c < 0x80 then decide (0x09 ≤ c ∧ c ≤ 0x0D ∨ c = 0x20)
  else c == 0x85 || Category.separators.contains (Category.of c)

/-- Whether the code point can be part of a word. -/
def isWord (c : Nat) : Bool :=
  if c < 0x80 then
    decide (0x41 ≤ c ∧ c ≤ 0x5A ∨ 0x61 ≤ c ∧ c ≤ 0x7A ∨ 0x30 ≤ c ∧ c ≤ 0x39 ∨ c = 0x5F)
  else
    let cat := Category.of c
    Category.letters.contains cat || Category.marks.contains cat ||
      cat == .nd || cat == .nl || cat == .pc || inRanges Ranges.alphabeticSymbols c

/-- Whether the code point is passed over when a word boundary is looked for. The digits and
fractions of Latin-1 are, although they do not belong to the property `word`. -/
def isWordPart (c : Nat) : Bool :=
  isWord c || (decide (c < 0x100) && Category.of c == .no)

/-- Whether the code point is a capital letter or counts as one. -/
def isUpper (c : Nat) : Bool :=
  Category.of c == .lu || inRanges Ranges.uppercaseSymbols c

/-- Whether the code point is a small letter or counts as one. -/
def isLower (c : Nat) : Bool :=
  Category.of c == .ll || inRanges Ranges.lowercaseOthers c

/-- Whether the code point leaves a mark on paper. -/
def isGraph (c : Nat) : Bool :=
  let cat := Category.of c
  !(isSpace c || cat == .cc || cat == .cn || cat == .cs)

/-- Whether the code point has the property. -/
def holds : Property → Nat → Bool
  | alnum, c => isAlphabetic c || isDigit c
  | alpha, c => isAlphabetic c
  | blank, c => c == 0x09 || Category.of c == .zs
  | cntrl, c => Category.of c == .cc
  | digit, c => isDigit c
  | graph, c => isGraph c
  | lower, c => isLower c
  | print, c => isGraph c || Category.of c == .zs
  | punct, c =>
    Category.punctuation.contains (Category.of c) || Category.symbols.contains (Category.of c)
  | space, c => isSpace c
  | upper, c => isUpper c
  | xdigit, c => decide (0x30 ≤ c ∧ c ≤ 0x39 ∨ 0x41 ≤ c ∧ c ≤ 0x46 ∨ 0x61 ≤ c ∧ c ≤ 0x66)
  | word, c => isWord c
  | wordPart, c => isWordPart c
  | ascii, c => decide (c < 0x80)
  | any, _ => true
  | assigned, c => Category.of c != .cn
  | category cs, c => cs.contains (Category.of c)
  | script index, c => lastRun? Script.runs c == some index
  | ranges rs cs, c => inRanges rs c || cs.contains (Category.of c)

/-- The properties that a bracket inside a character class can name. -/
def brackets : List (String × Property) := [
  ("alnum", alnum), ("alpha", alpha), ("blank", blank), ("cntrl", cntrl), ("digit", digit),
  ("graph", graph), ("lower", lower), ("print", print), ("punct", punct), ("space", space),
  ("upper", upper), ("xdigit", xdigit), ("ascii", ascii), ("word", word)]

/-- The property that a bracket such as `[:alpha:]` names. -/
def bracket? (name : String) : Option Property :=
  (brackets.find? fun entry => entry.1 == name).map (·.2)

/-- Properties with names of their own, beside brackets, categories and scripts. -/
def others : List (List String × Property) := [
  (["posixpunct"], punct),
  (["any"], any),
  (["assigned"], assigned),
  (["alphabetic"], alpha),
  (["uppercase"], upper),
  (["lowercase"], lower),
  (["whitespace", "wspace"], space),
  (["hexdigit", "hex"], ranges Ranges.hexDigit []),
  (["asciihexdigit", "ahex"], xdigit),
  (["cased"], ranges Ranges.casedOthers [.lu, .ll, .lt]),
  (["caseignorable", "ci"], ranges Ranges.caseIgnorableOthers [.mn, .me, .cf, .lm, .sk]),
  (["graphemeextend", "grext"], ranges Ranges.graphemeExtendOthers [.mn, .me]),
  (["math"], ranges Ranges.math [.sm]),
  (["dash"], ranges Ranges.dash []),
  (["ideographic", "ideo"], ranges Ranges.ideographic []),
  (["quotationmark", "qmark"], ranges Ranges.quotationMark []),
  (["emoji"], ranges Ranges.emoji []),
  (["extendedpictographic", "extpict"], ranges Ranges.pictographic [])]

/-- The name without case, blanks, hyphens and underscores. -/
def normalName (name : List Char) : String :=
  String.ofList ((name.filter fun c => c != ' ' && c != '-' && c != '_').map Char.toLower)

/-- The property with a name. Categories come before brackets, so that `Punct` is the
punctuation alone. -/
def named? (name : List Char) : Option Property :=
  let name := normalName name
  match Category.named? name with
  | some cs => some (category cs)
  | none =>
    match bracket? name with
    | some p => some p
    | none =>
      match others.find? fun entry => entry.1.contains name with
      | some (_, p) => some p
      | none => (Script.names.findIdx? fun ns => ns.contains name).map script

end Property

end Highlight.Unicode
