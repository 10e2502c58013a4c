import Highlight.Decimal.Shortest
import Highlight.Json.Reader

/-!
# `Highlight.Json.Number`: numbers of a JSON text

`Reader.number` reads a number as a kind of value. A number without a fraction and an exponent
is an integer if it fits into 64 bits, but for `-0`. All other numbers are rounded to double
precision: digits beyond the first that fit into 64 bits are not used, and the result is scaled
by the power of ten.

`Reader.skipNumber` drops a number, however great.
-/

set_option autoImplicit false

namespace Highlight.Json

open Highlight.Decimal

/-- The greatest natural number of 64 bits. -/
def greatestWord : Nat := Nat.pow 2 64 - 1

/-- The greatest exponent that is read digit by digit. -/
def greatestExponent : Nat := Nat.pow 2 31 - 1

/-- The value of a digit. -/
def digit? : Option Symbol → Option Nat
  | some (some c) => if c.isDigit then some (c.toNat - '0'.toNat) else none
  | _ => none

/-- Whether a symbol starts an exponent. -/
def isExponentMark (s : Option Symbol) : Bool :=
  s == some (some 'e') || s == some (some 'E')

namespace Kind

/-- The text of a number in double precision. -/
def ofDouble (positive : Bool) (d : Double) : Kind :=
  let text := String.ofList d.text
  float (if positive then text else "-" ++ text)

/-- The kind of an integer of 64 bits without its sign. A negative integer must fit into 64
bits together with its sign. -/
def ofDigits (positive : Bool) (n : Nat) : Kind :=
  if positive then integer n
  else if n = 0 ∨ Nat.pow 2 63 < n then ofDouble false ((Double.ofRatio? n 1).getD .zero)
  else integer (-n)

end Kind

namespace Reader

/-- Drops digits. -/
def skipDigits : Reader Unit := fun rest =>
  .ok ((), rest.dropWhile fun s => (digit? (some s)).isSome)

/-- Takes digits, and counts them. -/
def countDigits : Reader Nat := fun rest =>
  let after := rest.dropWhile fun s => (digit? (some s)).isSome
  .ok (rest.length - after.length, after)

/-- Takes at most `fuel` digits as long as the number stays below a limit. Yields the number,
how many digits there were, and whether another digit would pass the limit. -/
def digitsWithin (limit : Nat) : Nat → Nat → Nat → Reader (Nat × Nat × Bool)
  | 0, n, k => return (n, k, false)
  | fuel + 1, n, k => do
    match digit? (← peek) with
    | none => return (n, k, false)
    | some d =>
      if limit < n * 10 + d then return (n, k, true)
      else do
        skip
        digitsWithin limit fuel (n * 10 + d) (k + 1)

/-- Takes digits as long as the number stays below the greatest word. -/
def wordDigits (n : Nat) : Reader (Nat × Nat × Bool) := fun rest =>
  digitsWithin greatestWord rest.length n 0 rest

/-- The number `n * 10 ^ e`. -/
def scaledNumber (positive : Bool) (n : Nat) (e : Int) : Reader Kind := do
  match (Double.ofRatio? n 1).bind (·.scale? e) with
  | some d => return .ofDouble positive d
  | none => failBetween .numberOutOfRange

/-- Takes the digits of an exponent as long as it stays below the limit, and one digit more if
there is one. Yields the exponent, unless it passes the limit. -/
def exponentDigits (fuel : Nat) : Reader (Option Nat) := do
  let (e, _, passed) ← digitsWithin greatestExponent fuel 0 0
  if passed then
    skip
    return none
  else return some e

/-- Reads an exponent and applies it to `n * 10 ^ e`. -/
def exponent (positive : Bool) (n : Nat) (e : Int) : Reader Kind := do
  skip
  let mut up := true
  match ← peek with
  | some (some '+') => skip
  | some (some '-') =>
    skip
    up := false
  | _ => pure ()
  let first ← peek
  if first.isNone then failHere .endInValue
  else if (digit? first).isNone then failAhead .invalidNumber
  else
    match ← (fun rest => exponentDigits rest.length rest) with
    | some x => scaledNumber positive n (if up then e + x else e - x)
    | none =>
      if n ≠ 0 ∧ up then failHere .numberOutOfRange
      else
        skipDigits
        return .ofDouble positive .zero

/-- Reads what may follow the digits of a number that is not an integer. -/
def maybeExponent (positive : Bool) (n : Nat) (e : Int) : Reader Kind := do
  if isExponentMark (← peek) then exponent positive n e
  else scaledNumber positive n e

/-- Reads a fraction, and adds it to `n * 10 ^ e`. -/
def fraction (positive : Bool) (n : Nat) (e : Int) : Reader Kind := do
  skip
  let (m, k, passed) ← wordDigits n
  if passed then
    skipDigits
    maybeExponent positive m (e - k)
  else if k = 0 then
    if (← peek).isSome then failAhead .invalidNumber else failAhead .endInValue
  else maybeExponent positive m (e - k)

/-- Reads the part of a number after its leading digits. -/
def afterDigits (positive : Bool) (n : Nat) : Reader Kind := do
  let s ← peek
  if s = some (some '.') then fraction positive n 0
  else if isExponentMark s then exponent positive n 0
  else return .ofDigits positive n

/-- Reads the digits of a number whose first digits make up `n`, and whose next digit does not
fit any more. -/
def longNumber (positive : Bool) (n : Nat) : Reader Kind := do
  let k ← countDigits
  let s ← peek
  if s = some (some '.') then fraction positive n k
  else maybeExponent positive n k

/-- Reads a number without its sign. -/
def unsigned (positive : Bool) : Reader Kind := do
  match ← peek with
  | none => failHere .endInValue
  | some s =>
    match digit? (some s) with
    | none => failAhead .invalidNumber
    | some 0 => do
      skip
      if (digit? (← peek)).isSome then failAhead .invalidNumber
      else afterDigits positive 0
    | some _ => do
      let (n, _, passed) ← wordDigits 0
      if passed then longNumber positive n else afterDigits positive n

/-- Reads a number. -/
def number : Reader Kind := do
  if (← peek) = some (some '-') then
    skip
    unsigned false
  else unsigned true

/-- Drops an exponent. -/
def skipExponent : Reader Unit := do
  skip
  match ← peek with
  | some (some '+') => skip
  | some (some '-') => skip
  | _ => pure ()
  if (digit? (← peek)).isSome then skipDigits else failAhead .invalidNumber

/-- Drops a fraction. -/
def skipFraction : Reader Unit := do
  skip
  if (digit? (← peek)).isSome then
    skipDigits
    if isExponentMark (← peek) then skipExponent
  else failAhead .invalidNumber

/-- Drops a number. -/
def skipNumber : Reader Unit := do
  if (← peek) = some (some '-') then skip
  match digit? (← peek) with
  | none => failAhead .invalidNumber
  | some 0 => do
    skip
    if (digit? (← peek)).isSome then failAhead .invalidNumber
  | some _ => skipDigits
  let s ← peek
  if s = some (some '.') then skipFraction
  else if isExponentMark s then skipExponent

end Reader

end Highlight.Json
