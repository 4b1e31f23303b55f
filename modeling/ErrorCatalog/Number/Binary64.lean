import ErrorCatalog.Number.Power
import ErrorCatalog.Text

/-!
# `ErrorCatalog/Number/Binary64.lean` — the shortest text of a binary fraction

A decimal fraction in a settings file is kept with 64 bits, and a message shows what was kept, not
what was written: `0.10000000000000001` is shown as `0.1`. Two rules make this exact, and both are
computed with natural numbers.

* **Rounding.** The number kept is the multiple `m · 2^q` nearest to the one written, with `m` below
  `2^53` and `q` no smaller than `-1074`; of two equally near ones the one with an even `m`.
* **Shortest text.** The number shown has the fewest digits among all decimals that round to the
  number kept, and among those with that many digits it is the nearest to it.

The text is always positional, with at least one digit on each side of the point.
-/

set_option autoImplicit false

namespace ErrorCatalog

structure Fraction where
  numerator : Nat
  denominator : Nat

/-- The fraction `digits · 10^exponent`. -/
def Fraction.ofDecimal (digits : Nat) (exponent : Int) : Fraction :=
  if 0 ≤ exponent then ⟨digits * tenTo exponent.toNat, 1⟩ else ⟨digits, tenTo (-exponent).toNat⟩

/-- The fraction times `2^exponent`. -/
def Fraction.scale2 (f : Fraction) (exponent : Int) : Fraction :=
  if 0 ≤ exponent then ⟨f.numerator * twoTo exponent.toNat, f.denominator⟩
  else ⟨f.numerator, f.denominator * twoTo (-exponent).toNat⟩

/-- The fraction times `10^exponent`. -/
def Fraction.scale10 (f : Fraction) (exponent : Int) : Fraction :=
  if 0 ≤ exponent then ⟨f.numerator * tenTo exponent.toNat, f.denominator⟩
  else ⟨f.numerator, f.denominator * tenTo (-exponent).toNat⟩

/-- The whole part. -/
def Fraction.floor (f : Fraction) : Nat := f.numerator / f.denominator

/-- The nearest whole number, the even one of two. -/
def Fraction.nearest (f : Fraction) : Nat :=
  let whole := f.numerator / f.denominator
  let twice := 2 * (f.numerator % f.denominator)
  if twice < f.denominator then whole
  else if f.denominator < twice then whole + 1
  else if whole % 2 = 0 then whole else whole + 1

/-- Whether one fraction is below another, or equal if `orEqual`. -/
def Fraction.below (orEqual : Bool) (f g : Fraction) : Bool :=
  let left := f.numerator * g.denominator
  let right := g.numerator * f.denominator
  left < right || (orEqual && left == right)

/-- The number `mantissa · 2^exponent`. -/
structure Binary64 where
  mantissa : Nat
  exponent : Int

namespace Binary64

/-- The smallest mantissa of a number with full precision. -/
def fullMantissa : Nat := twoTo 52

def minExponent : Int := -1074

def maxExponent : Int := 971

/-- The exponent to try first: the quotient then has 53 or 54 binary digits. -/
def firstExponent (f : Fraction) : Int :=
  max minExponent (Int.ofNat f.numerator.log2 - Int.ofNat f.denominator.log2 - 53)

/-- The number nearest to a positive fraction; `none` if it is too large to be kept. -/
def ofFraction? (f : Fraction) : Option Binary64 :=
  let first := firstExponent f
  let exponent := if (f.scale2 (-first)).floor < 2 * fullMantissa then first else first + 1
  let mantissa := (f.scale2 (-exponent)).nearest
  let result : Binary64 :=
    if mantissa = 2 * fullMantissa then ⟨fullMantissa, exponent + 1⟩ else ⟨mantissa, exponent⟩
  if result.exponent ≤ maxExponent then some result else none

def toFraction (b : Binary64) : Fraction := Fraction.scale2 ⟨b.mantissa, 1⟩ b.exponent

/-- The ends of the interval of fractions that round to the number. -/
def interval (b : Binary64) : Fraction × Fraction :=
  let lower :=
    if b.mantissa = fullMantissa ∧ minExponent < b.exponent then
      Fraction.scale2 ⟨4 * b.mantissa - 1, 1⟩ (b.exponent - 2)
    else Fraction.scale2 ⟨2 * b.mantissa - 1, 1⟩ (b.exponent - 1)
  (lower, Fraction.scale2 ⟨2 * b.mantissa + 1, 1⟩ (b.exponent - 1))

/-- Whether a fraction rounds to the number. An even mantissa owns the ends of its interval. -/
def owns (b : Binary64) (f : Fraction) : Bool :=
  let (lower, upper) := b.interval
  let ends := b.mantissa % 2 == 0
  lower.below ends f && f.below ends upper

/-- The power of ten of the first digit of a positive fraction. -/
def leadingPower (f : Fraction) : Int :=
  if f.denominator ≤ f.numerator then Int.ofNat ((Nat.toDigits 10 f.floor).length - 1)
  else
    let shift := (List.range 400).find? fun n => f.denominator ≤ f.numerator * tenTo n
    Int.negOfNat (shift.getD 400)

/-- The decimal after one with `count` digits, given the digits and the power of ten of the last.
After nothing but nines comes a power of ten, which has its one in the place above. -/
def decimalAfter (count digits : Nat) (power : Int) : Nat × Int :=
  if digits + 1 = tenTo count then (tenTo (count - 1), power + 1) else (digits + 1, power)

/-- The decimal with `count` digits that is nearest to the number and rounds to it, if there is
one: its digits and the power of ten of the last. -/
def withDigits? (b : Binary64) (count : Nat) : Option (Nat × Int) :=
  let value := b.toFraction
  let power := leadingPower value - Int.ofNat count + 1
  let below := (value.scale10 (-power)).floor
  let above := decimalAfter count below power
  match b.owns (Fraction.ofDecimal below power), b.owns (Fraction.ofDecimal above.1 above.2) with
  | true, true =>
    if (value.scale10 (-power)).nearest = below then some (below, power) else some above
  | true, false => some (below, power)
  | false, true => some above
  | false, false => none

/-- The shortest decimal that rounds to the number: its digits and the power of ten of the last. -/
def shortest (b : Binary64) : Nat × Int :=
  ((List.range 17).findSome? fun n => b.withDigits? (n + 1)).getD (0, 0)

end Binary64

/-- Digits in positional notation, given the power of ten of the last. -/
def positional (digits : Nat) (power : Int) : Text :=
  let shown := Text.ofNat digits
  if 0 ≤ power then shown ++ Text.filler '0' power.toNat ++ ".0".toList
  else
    let places := (-power).toNat
    let filled := Text.padLeft '0' (places + 1) shown
    filled.take (filled.length - places) ++ '.' :: filled.drop (filled.length - places)

/-- What is shown of the decimal `digits · 10^exponent`; `none` if it is too large to be kept. -/
def decimalShown? (digits : Nat) (exponent : Int) : Option Text :=
  let size := Int.ofNat (Text.ofNat digits).length + exponent
  if digits = 0 ∨ size < -330 then some "0.0".toList
  else if 310 < size then none
  else
    (Binary64.ofFraction? (Fraction.ofDecimal digits exponent)).map fun b =>
      if b.mantissa = 0 then "0.0".toList
      else
        let (d, p) := b.shortest
        positional d p

end ErrorCatalog
