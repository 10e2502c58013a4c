import Highlight.LengthUnit

/-!
# `Highlight.Options`: how spans are made

The options say what lengths count, whether neighbours of equal style become one span, which
style a match without an owner gets, and whether the plain language stands in for one that is
not known.
-/

set_option autoImplicit false

namespace Highlight

/-- How spans are made. -/
structure Options where
  unit : LengthUnit
  /-- Whether neighbours of equal style become one span -/
  merge : Bool
  /-- The style of a match without an owner -/
  fallback : String
  /-- Whether the plain language stands in for an unknown one -/
  toPlain : Bool
  deriving DecidableEq, Repr

namespace Options

/-- Lengths in characters, no merging, and no plain language. -/
def standard : Options := ⟨.chars, false, "text", false⟩

end Options

end Highlight
