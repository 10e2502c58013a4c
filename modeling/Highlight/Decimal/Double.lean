/-!
# `Highlight.Decimal.Double`: binary numbers of double precision

A `Double` is a number `mantissa * 2 ^ exponent` with a mantissa below `2 ^ 53`, kept as exact
integers. `Double.ofRatio?` rounds a quotient to the nearest such number, a tie to the even
mantissa, and yields nothing if the quotient is too great. Products, quotients and scaling by
powers of ten round their exact result in this way.
-/

set_option autoImplicit false

namespace Highlight.Decimal

/-- A number `mantissa * 2 ^ exponent`. -/
structure Double where
  /-- The significant bits -/
  mantissa : Nat
  /-- The power of two that they count -/
  exponent : Int
  deriving DecidableEq, Repr

namespace Double

/-- The least exponent. -/
def leastExponent : Int := -1074

/-- The greatest exponent. -/
def greatestExponent : Int := 971

/-- Zero. -/
def zero : Double := ⟨0, leastExponent⟩

/-- The quotient `num / den / 2 ^ e` as a quotient of natural numbers. -/
def scaled (num den : Nat) (e : Int) : Nat × Nat :=
  if 0 ≤ e then (num, den * Nat.pow 2 e.toNat) else (num * Nat.pow 2 (-e).toNat, den)

/-- The natural number nearest to a quotient, the even one of two. -/
def roundDiv (num den : Nat) : Nat :=
  let q := num / den
  let twice := 2 * (num % den)
  if twice < den then q
  else if den < twice then q + 1
  else if q % 2 = 0 then q else q + 1

/-- The exponent of the number nearest to a quotient. -/
def exponentOf (num den : Nat) : Int :=
  let e : Int := (Nat.log2 num : Int) - (Nat.log2 den : Int) - 53
  let (a, b) := scaled num den (max e leastExponent)
  if Nat.pow 2 53 ≤ a / b then max (e + 1) leastExponent else max e leastExponent

/-- The number nearest to a quotient, unless it is too great. -/
def ofRatio? (num den : Nat) : Option Double :=
  if num = 0 then some zero
  else
    let e := exponentOf num den
    let (a, b) := scaled num den e
    let m := roundDiv a b
    let d : Double := if m < Nat.pow 2 53 then ⟨m, e⟩ else ⟨m / 2, e + 1⟩
    if d.exponent ≤ greatestExponent then some d else none

/-- The number as a quotient of natural numbers. -/
def ratio (d : Double) : Nat × Nat :=
  if 0 ≤ d.exponent then (d.mantissa * Nat.pow 2 d.exponent.toNat, 1)
  else (d.mantissa, Nat.pow 2 (-d.exponent).toNat)

/-- The product, unless it is too great. -/
def mul? (x y : Double) : Option Double :=
  ofRatio? (x.ratio.1 * y.ratio.1) (x.ratio.2 * y.ratio.2)

/-- The quotient by a number other than zero. -/
def div? (x y : Double) : Option Double :=
  ofRatio? (x.ratio.1 * y.ratio.2) (x.ratio.2 * y.ratio.1)

/-- The greatest power of ten that scaling uses at once. -/
def greatestPower : Nat := 308

/-- Multiplies by `10 ^ k`, rounding once, unless the result is too great. -/
def scaleUp? (d : Double) (k : Nat) : Option Double :=
  if k ≤ greatestPower then (ofRatio? (Nat.pow 10 k) 1).bind d.mul?
  else if d.mantissa = 0 then some d
  else none

/-- Divides by `10 ^ k`, in steps of at most the greatest power, rounding each time. -/
def scaleDown (d : Double) (k : Nat) : Double :=
  if d.mantissa = 0 then d
  else if _h : k ≤ greatestPower then
    ((ofRatio? (Nat.pow 10 k) 1).bind d.div?).getD d
  else
    scaleDown (((ofRatio? (Nat.pow 10 greatestPower) 1).bind d.div?).getD d) (k - greatestPower)
termination_by k
decreasing_by simp only [greatestPower] at *; omega

/-- Multiplies by a power of ten. -/
def scale? (d : Double) : Int → Option Double
  | .ofNat k => d.scaleUp? k
  | .negSucc k => some (d.scaleDown (k + 1))

end Double

end Highlight.Decimal
