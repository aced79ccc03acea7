import PoolOperator.Number.Binary64

/-!
# Decimal text of doubles

`Binary64.shortest` finds the fewest decimal digits that read back as a given
double, and of those the nearest to it.  It tries the grids of one, two, up to
seventeen digits.  On each grid the two neighbours of the number are the only
candidates, and a candidate counts when it lies in the interval of reals that
round to the number.  All comparisons are made in natural numbers.

Two texts are built on it.  `plainText` never uses an exponent and is the form
of metric samples.  `compactText` is the form of JSON and YAML numbers: it
always has a point or an exponent, and it takes an exponent for numbers that
would need many zeros.
-/

namespace PoolOperator

namespace Binary64

/-- Decimal digits of a number and the power of ten that they are multiples
of: `digits · 10 ^ power`. -/
structure Decimal where
  /-- The digits, as a natural number. -/
  digits : Nat
  /-- The power of ten of the last digit. -/
  power : Int
  deriving DecidableEq, Repr

namespace Decimal

/-- Moves zeros at the end into the power.  `fuel` bounds the number of
zeros. -/
def stripZeros : Nat → Decimal → Decimal
  | 0, decimal => decimal
  | fuel + 1, decimal =>
      if decimal.digits ≠ 0 ∧ decimal.digits % 10 = 0 then
        stripZeros fuel ⟨decimal.digits / 10, decimal.power + 1⟩
      else decimal

/-- The digits as text. -/
def digitText (decimal : Decimal) : List Char := Nat.toDigits 10 decimal.digits

/-- The position of the point: the number is `0.d₁d₂… · 10 ^ point`. -/
def point (decimal : Decimal) : Int := decimal.digitText.length + decimal.power

end Decimal

/-- A positive finite number in quarters of its unit: the number itself and
the ends of the interval that rounds to it.  Below a power of two the
neighbour is nearer. -/
structure Rounding where
  /-- The number. -/
  value : Nat
  /-- The lower end. -/
  low : Nat
  /-- The upper end. -/
  high : Nat
  /-- Do the ends belong to it? -/
  closed : Bool
  /-- The power of two of a quarter. -/
  quarter : Int

/-- The rounding interval of `significand · 2 ^ exponent`. -/
def rounding (significand : Nat) (exponent : Int) : Rounding where
  value := 4 * significand
  low := if significand = Nat.pow 2 52 ∧ exponent > leastExponent then 4 * significand - 1
    else 4 * significand - 2
  high := 4 * significand + 2
  closed := significand % 2 = 0
  quarter := exponent - 2

/-- Both sides of the comparison of `digits · 10 ^ power` with `quarters · 2 ^
quarter`, brought to natural numbers. -/
def sides (digits : Nat) (power : Int) (quarters : Nat) (quarter : Int) : Nat × Nat :=
  ((digits * Nat.pow 10 power.toNat) <<< (-quarter).toNat,
    (quarters * Nat.pow 10 (-power).toNat) <<< quarter.toNat)

/-- Does `digits · 10 ^ power` round to the number? -/
def Rounding.contains (interval : Rounding) (digits : Nat) (power : Int) : Bool :=
  let (belowLeft, belowRight) := sides digits power interval.low interval.quarter
  let (aboveLeft, aboveRight) := sides digits power interval.high interval.quarter
  if interval.closed then belowRight ≤ belowLeft && aboveLeft ≤ aboveRight
  else belowRight < belowLeft && aboveLeft < aboveRight

/-- The distance of `digits · 10 ^ power` from the number, on a scale of its
own that depends on the powers alone. -/
def Rounding.distance (interval : Rounding) (digits : Nat) (power : Int) : Nat :=
  let (left, right) := sides digits power interval.value interval.quarter
  (left - right) + (right - left)

/-- The candidate on the grid of multiples of `10 ^ power`. -/
def Rounding.candidate? (interval : Rounding) (power : Int) : Option Nat :=
  let (one, value) := sides 1 power interval.value interval.quarter
  let lower := value / one
  let upper := lower + 1
  match interval.contains lower power, interval.contains upper power with
  | true, true =>
      let below := interval.distance lower power
      let above := interval.distance upper power
      if below < above ∨ (below = above ∧ lower % 2 = 0) then some lower else some upper
  | true, false => some lower
  | false, true => some upper
  | false, false => none

/-- The first grid with a candidate, from the coarse to the fine. -/
def Rounding.search (interval : Rounding) : Nat → Int → Decimal
  | 0, power => ⟨(interval.candidate? power).getD 0, power⟩
  | fuel + 1, power =>
      match interval.candidate? power with
      | some digits => ⟨digits, power⟩
      | none => search interval fuel (power - 1)

/-- The number of decimal digits before the point of `significand · 2 ^
exponent`; for a number below one, minus the zeros after the point. -/
def decimalPoint (significand : Nat) (exponent : Int) : Int :=
  let top := significand <<< exponent.toNat
  let bottom := 1 <<< (-exponent).toNat
  if top ≥ bottom then (Nat.toDigits 10 (top / bottom)).length
  else
    -- 1 / x has as many digits before the point as x has zeros after it, or one more
    let inverse : Int := (Nat.toDigits 10 (bottom / top)).length
    if bottom ≤ top * Nat.pow 10 (inverse.toNat - 1) then 2 - inverse else 1 - inverse

/-- The fewest digits that read back as `significand · 2 ^ exponent`, and of
those the nearest. -/
def shortest (significand : Nat) (exponent : Int) : Decimal :=
  if significand = 0 then ⟨0, 0⟩
  else
    let found := (rounding significand exponent).search 17 (decimalPoint significand exponent)
    found.stripZeros 400

/-- The text of a sign. -/
def signText (negative : Bool) : String := if negative then "-" else ""

/-- The number without an exponent, whole numbers without a point. -/
def plainText : Binary64 → String
  | .nan => "NaN"
  | .infinite negative => signText negative ++ "inf"
  | .finite negative significand exponent =>
      let decimal := shortest significand exponent
      let digits := decimal.digitText
      let point := decimal.point
      signText negative ++ String.ofList (
        if decimal.digits = 0 then ['0']
        else if decimal.power ≥ 0 then digits ++ List.replicate decimal.power.toNat '0'
        else if point ≤ 0 then '0' :: '.' :: List.replicate (-point).toNat '0' ++ digits
        else digits.take point.toNat ++ '.' :: digits.drop point.toNat)

/-- The number with a point or an exponent.  A point is written while it
stands at most sixteen digits after the first digit, or at most five zeros
before it. -/
def compactText : Binary64 → String
  | .nan => "null"
  | .infinite _ => "null"
  | .finite negative significand exponent =>
      let decimal := shortest significand exponent
      let digits := decimal.digitText
      let point := decimal.point
      signText negative ++ String.ofList (
        if decimal.digits = 0 then ['0', '.', '0']
        else if decimal.power ≥ 0 ∧ point ≤ 16 then
          digits ++ List.replicate decimal.power.toNat '0' ++ ['.', '0']
        else if 0 < point ∧ point ≤ 16 then
          digits.take point.toNat ++ '.' :: digits.drop point.toNat
        else if -5 < point ∧ point ≤ 0 then
          '0' :: '.' :: List.replicate (-point).toNat '0' ++ digits
        else
          digits.take 1 ++ (if digits.length > 1 then '.' :: digits.drop 1 else [])
            ++ 'e' :: (toString (point - 1)).toList)

example : (shortest 1 (-1074)) = ⟨5, -324⟩ := by decide +kernel
example : (ofDecimal false 1 (-1)).plainText = "0.1" := by decide +kernel
example : (ofDecimal true 15 (-1)).compactText = "-1.5" := by decide +kernel
example : (ofNat 1000).compactText = "1000.0" := by decide +kernel

end Binary64

end PoolOperator
