import Highlight.Unicode.Property

/-!
# `Highlight.Unicode.Grapheme`: where a text can be cut between user-perceived characters

`isClusterEdge text i` says whether position `i` lies between two extended grapheme
clusters. The start and the end of a text are such positions.
-/

set_option autoImplicit false

namespace Highlight.Unicode

/-- The part a code point plays in a grapheme cluster. -/
inductive ClusterPart where
  /-- A carriage return -/
  | cr
  /-- A line feed -/
  | lf
  /-- A code point that stands alone -/
  | control
  /-- A code point that extends the cluster before it -/
  | extend
  /-- The zero-width joiner -/
  | joiner
  /-- Half of a flag -/
  | regional
  /-- A code point that joins the cluster after it -/
  | prepend
  /-- A vowel sign that joins the cluster before it -/
  | spacingMark
  /-- A leading Hangul consonant -/
  | leading
  /-- A Hangul vowel, or a vowel sign of Kirat Rai, which joins others of its kind -/
  | vowel
  /-- A trailing Hangul consonant -/
  | trailing
  /-- A Hangul syllable without a trailing consonant -/
  | openSyllable
  /-- A Hangul syllable with a trailing consonant -/
  | closedSyllable
  /-- Any other code point -/
  | other
  deriving DecidableEq, Repr

namespace ClusterPart

/-- The part of a code point outside ASCII. -/
def ofWide (c : Nat) : ClusterPart :=
  let cat := Category.of c
  if c = 0x200D then joiner
  else if cat == .mn || cat == .me || inRanges Ranges.graphemeExtendOthers c ||
      (decide (0x1F3FB ≤ c) && decide (c ≤ 0x1F3FF)) then extend
  else if 0x1F1E6 ≤ c ∧ c ≤ 0x1F1FF then regional
  else if inRanges Ranges.graphemePrepend c then prepend
  else if ([.cc, .cf, .zl, .zp].contains cat && !inRanges Ranges.graphemeFormatOthers c) ||
      inRanges Ranges.graphemeControlOthers c then control
  else if (cat == .mc && !inRanges Ranges.spacingMarkExceptions c) ||
      inRanges Ranges.spacingMarkOthers c then spacingMark
  else if (0x1100 ≤ c ∧ c ≤ 0x115F) ∨ (0xA960 ≤ c ∧ c ≤ 0xA97C) then leading
  else if (0x1160 ≤ c ∧ c ≤ 0x11A7) ∨ (0xD7B0 ≤ c ∧ c ≤ 0xD7C6) ∨ c = 0x16D63 ∨
      (0x16D67 ≤ c ∧ c ≤ 0x16D6A) then vowel
  else if (0x11A8 ≤ c ∧ c ≤ 0x11FF) ∨ (0xD7CB ≤ c ∧ c ≤ 0xD7FB) then trailing
  else if 0xAC00 ≤ c ∧ c ≤ 0xD7A3 then
    if (c - 0xAC00) % 28 = 0 then openSyllable else closedSyllable
  else other

/-- The part that a code point plays. -/
def of (c : Nat) : ClusterPart :=
  if c = 0x0D then cr
  else if c = 0x0A then lf
  else if c < 0x20 ∨ c = 0x7F then control
  else if c < 0x7F then other
  else ofWide c

end ClusterPart

/-- Whether the text before position `i` ends with a pictograph and code points that extend
it. -/
def endsWithPictograph (text : Array Char) : Nat → Bool
  | 0 => false
  | i + 1 =>
    match text[i]? with
    | none => false
    | some c =>
      if inRanges Ranges.pictographic c.toNat then true
      else if ClusterPart.of c.toNat == .extend then endsWithPictograph text i
      else false

/-- The number of flag halves that end at position `i`. -/
def regionalRun (text : Array Char) : Nat → Nat
  | 0 => 0
  | i + 1 =>
    match text[i]? with
    | none => 0
    | some c => if ClusterPart.of c.toNat == .regional then regionalRun text i + 1 else 0

/-- Whether position `i` lies between two grapheme clusters. -/
def isClusterEdge (text : Array Char) (i : Nat) : Bool :=
  match i with
  | 0 => true
  | i + 1 =>
    match text[i]?, text[i + 1]? with
    | some before, some after =>
      let a := ClusterPart.of before.toNat
      let b := ClusterPart.of after.toNat
      -- A line end of two characters is one cluster, and controls are clusters of their own.
      if a == .cr && b == .lf then false
      else if [.cr, .lf, .control].contains a || [.cr, .lf, .control].contains b then true
      -- Hangul letters make syllables.
      else if a == .leading && [.leading, .vowel, .openSyllable, .closedSyllable].contains b
      then false
      else if [.openSyllable, .vowel].contains a && [.vowel, .trailing].contains b then false
      else if [.closedSyllable, .trailing].contains a && b == .trailing then false
      -- Marks go with what stands before them, and prepended ones with what stands after them.
      else if [.extend, .joiner, .spacingMark].contains b then false
      else if a == .prepend then false
      -- A joiner between two pictographs makes them one.
      else if a == .joiner && inRanges Ranges.pictographic after.toNat &&
          endsWithPictograph text i then false
      -- Flags are pairs of letters.
      else if a == .regional && b == .regional then regionalRun text (i + 1) % 2 == 0
      else true
    | _, _ => true

/-- The end of the grapheme cluster that begins at `i`, looking at most `fuel` characters
ahead. -/
def clusterEnd (text : Array Char) : Nat → Nat → Nat
  | 0, i => i
  | fuel + 1, i => if isClusterEdge text (i + 1) then i + 1 else clusterEnd text fuel (i + 1)

end Highlight.Unicode
