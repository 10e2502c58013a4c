import Highlight.Decimal.Double

/-!
# `Highlight.Decimal.Shortest`: the shortest decimal that reads back

`Double.shortest d` is the decimal with the fewest digits that is nearer to `d` than to any
other number of double precision, and the nearest to `d` of those. It is found on the grids of
1, 2, … 17 significant digits: if a point of a grid lies in the interval of the numbers that
round to `d`, so does one of the two neighbours of `d` on that grid.

`Double.text` writes it with a point and at least one digit on each side, or with an exponent
when it is very great or very small.
-/

set_option autoImplicit false

namespace Highlight.Decimal.Double

/-- Whether `a / b ≤ c / d`, or only `a / b < c / d` if the ends do not count. -/
def precedes (ends : Bool) (x y : Nat × Nat) : Bool :=
  if ends then decide (x.1 * y.2 ≤ y.1 * x.2) else decide (x.1 * y.2 < y.1 * x.2)

/-- The greatest number that rounds to `d`, as a quotient. -/
def upper (d : Double) : Nat × Nat :=
  ratio ⟨2 * d.mantissa + 1, d.exponent - 1⟩

/-- The least number that rounds to `d`, as a quotient. The numbers below a power of two lie
closer together. -/
def lower (d : Double) : Nat × Nat :=
  if d.mantissa = Nat.pow 2 52 ∧ leastExponent < d.exponent then
    ratio ⟨4 * d.mantissa - 1, d.exponent - 2⟩
  else ratio ⟨2 * d.mantissa - 1, d.exponent - 1⟩

/-- Whether the decimal `n * 10 ^ k` rounds to `d`. The ends of the interval do if the mantissa
is even. -/
def isReadFrom (d : Double) (n : Nat) (k : Int) : Bool :=
  let x : Nat × Nat := if 0 ≤ k then (n * Nat.pow 10 k.toNat, 1) else (n, Nat.pow 10 (-k).toNat)
  let ends := d.mantissa % 2 == 0
  precedes ends d.lower x && precedes ends x d.upper

/-- The quotient `d / 10 ^ k`. -/
def overPower (d : Double) (k : Int) : Nat × Nat :=
  let (a, b) := d.ratio
  if 0 ≤ k then (a, b * Nat.pow 10 k.toNat) else (a * Nat.pow 10 (-k).toNat, b)

/-- The least of `n` numbers from `k` on such that `d < 10 ^ k`. -/
def decimalSizeFrom (d : Double) : Nat → Int → Int
  | 0, k => k
  | n + 1, k =>
    let (a, b) := d.overPower k
    if a < b then k else decimalSizeFrom d n (k + 1)

/-- The least `k` such that `d < 10 ^ k`. -/
def decimalSize (d : Double) : Int :=
  -- The quotient is a little less than the logarithm of 2 to the base 10.
  let guess : Int := ((Nat.log2 d.mantissa : Int) + d.exponent) * 30102 / 100000 - 1
  d.decimalSizeFrom 4 guess

/-- The nearer of the two neighbours of `d` that round to `d` on the grid of the multiples of
`10 ^ k`. -/
def onGrid? (d : Double) (k : Int) : Option Nat :=
  let (a, b) := d.overPower k
  let n := a / b
  let nearest := roundDiv a b
  let other := if nearest = n then n + 1 else n
  if d.isReadFrom nearest k then some nearest
  else if d.isReadFrom other k then some other
  else none

/-- The first hit on the last `left` grids, of which the last has 17 digits. -/
def shortestFrom (d : Double) (size : Int) : Nat → Nat × Int
  | 0 =>
    let (a, b) := d.overPower (size - 17)
    (a / b, size - 17)
  | left + 1 =>
    let k := size - (17 - left : Int)
    match d.onGrid? k with
    | some n => (n, k)
    | none => shortestFrom d size left

/-- The digits and the power of ten of the shortest decimal. -/
def shortest (d : Double) : Nat × Int :=
  d.shortestFrom d.decimalSize 17

/-- Digits without the zeros at their end. -/
def trimZeros (ds : List Char) : List Char :=
  (ds.reverse.dropWhile (· == '0')).reverse

/-- The exponents of the first digit that are written positionally. -/
def isPositional (e : Int) : Bool := decide (-5 ≤ e ∧ e ≤ 15)

/-- The text of digits whose first one counts `10 ^ e`. -/
def layout (ds : List Char) (e : Int) : List Char :=
  if isPositional e then
    if e < 0 then
      ['0', '.'] ++ List.replicate (-e - 1).toNat '0' ++ ds
    else
      -- The digits may end before the point.
      let size := e.toNat + 1
      let whole := ds.take size ++ List.replicate (size - ds.length) '0'
      let part := ds.drop size
      whole ++ ['.'] ++ (if part.isEmpty then ['0'] else part)
  else
    let sign := if e < 0 then '-' else '+'
    let tail := match ds.drop 1 with
      | [] => []
      | rest => '.' :: rest
    ds.take 1 ++ tail ++ ['e', sign] ++ Nat.toDigits 10 e.natAbs

/-- The number in writing. -/
def text (d : Double) : List Char :=
  if d.mantissa = 0 then ['0', '.', '0']
  else
    let (n, k) := d.shortest
    let ds := Nat.toDigits 10 n
    layout (trimZeros ds) (k + ds.length - 1)

end Highlight.Decimal.Double
