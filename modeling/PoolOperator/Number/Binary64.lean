/-!
# Double precision numbers

A finite double is a sign, a significand and an exponent, `± significand · 2 ^
exponent`, with the significand below `2 ^ 53` and the exponent at least
`-1074`.  Every operation computes its exact result as a quotient of two
natural numbers and rounds it once, to the nearest double, a tie to the even
significand.  So equal numbers have equal representations, the two zeros
apart, and everything here can be evaluated by the kernel.
-/

namespace PoolOperator

/-- A double precision number. -/
inductive Binary64 where
  /-- The result of an undefined operation. -/
  | nan
  /-- An infinity. -/
  | infinite (negative : Bool)
  /-- `± significand · 2 ^ exponent`. -/
  | finite (negative : Bool) (significand : Nat) (exponent : Int)
  deriving DecidableEq, Repr, Inhabited

namespace Binary64

/-- The least exponent. -/
def leastExponent : Int := -1074

/-- The greatest exponent. -/
def greatestExponent : Int := 971

/-- The zero of a sign. -/
def zero (negative : Bool) : Binary64 := .finite negative 0 leastExponent

/-- `numerator / (denominator · 2 ^ exponent)`, as a quotient and what decides
its rounding: twice the remainder, and the divisor. -/
def scaledQuotient (numerator denominator : Nat) (exponent : Int) : Nat × Nat × Nat :=
  let top := numerator <<< (-exponent).toNat
  let bottom := denominator <<< exponent.toNat
  (top / bottom, 2 * (top % bottom), bottom)

/-- The double nearest to `± numerator / denominator`.  A result beyond the
greatest double is infinite. -/
def ofRatio (negative : Bool) (numerator denominator : Nat) : Binary64 :=
  if numerator = 0 then zero negative
  else
    let guess : Int := max leastExponent (numerator.log2 - denominator.log2 - 53)
    let exponent : Int :=
      if (scaledQuotient numerator denominator guess).1 < Nat.pow 2 53 then guess else guess + 1
    let (quotient, twice, divisor) := scaledQuotient numerator denominator exponent
    let rounded :=
      if twice > divisor ∨ (twice = divisor ∧ quotient % 2 = 1) then quotient + 1 else quotient
    let (significand, exponent) :=
      if rounded = Nat.pow 2 53 then (Nat.pow 2 52, exponent + 1) else (rounded, exponent)
    if exponent > greatestExponent then .infinite negative
    else .finite negative significand exponent

/-- The double nearest to a natural number. -/
def ofNat (n : Nat) : Binary64 := ofRatio false n 1

/-- The double nearest to an integer. -/
def ofInt (n : Int) : Binary64 := ofRatio (decide (n < 0)) n.natAbs 1

/-- `± digits · 10 ^ exponent`, rounded to the nearest double.  An exponent far
outside the range of the doubles is decided from the number of digits. -/
def ofDecimal (negative : Bool) (digits : Nat) (exponent : Int) : Binary64 :=
  if digits = 0 then zero negative
  else
    let magnitude : Int := (Nat.toDigits 10 digits).length + exponent
    if magnitude > 400 then .infinite negative
    else if magnitude < -400 then zero negative
    else ofRatio negative (digits * Nat.pow 10 exponent.toNat) (Nat.pow 10 (-exponent).toNat)

/-- The number with the other sign. -/
def negate : Binary64 → Binary64
  | .nan => .nan
  | .infinite negative => .infinite !negative
  | .finite negative significand exponent => .finite (!negative) significand exponent

/-- Is the number a zero of either sign? -/
def isZero : Binary64 → Bool
  | .finite _ significand _ => significand = 0
  | _ => false

/-- A finite number as a multiple of `2 ^ leastExponent`. -/
def scaled (negative : Bool) (significand : Nat) (exponent : Int) : Int :=
  let magnitude : Int := significand <<< (exponent - leastExponent).toNat
  if negative then -magnitude else magnitude

/-- The double nearest to a multiple of `2 ^ leastExponent`.  `negativeZero`
is the sign of a zero result. -/
def ofScaled (n : Int) (negativeZero : Bool) : Binary64 :=
  if n = 0 then zero negativeZero else ofRatio (decide (n < 0)) n.natAbs (1 <<< 1074)

/-- The sum, rounded once. -/
def add : Binary64 → Binary64 → Binary64
  | .nan, _ => .nan
  | _, .nan => .nan
  | .infinite one, .infinite other => if one = other then .infinite one else .nan
  | .infinite negative, _ => .infinite negative
  | _, .infinite negative => .infinite negative
  | .finite n1 s1 e1, .finite n2 s2 e2 => ofScaled (scaled n1 s1 e1 + scaled n2 s2 e2) (n1 && n2)

/-- The product of two finite numbers, rounded once. -/
def mul : Binary64 → Binary64 → Binary64
  | .finite n1 s1 e1, .finite n2 s2 e2 =>
      ofRatio (n1 != n2) (s1 * s2 <<< (e1 + e2).toNat) (1 <<< (-(e1 + e2)).toNat)
  | _, _ => .nan

/-- The quotient of two finite numbers, rounded once. -/
def div : Binary64 → Binary64 → Binary64
  | .finite n1 s1 e1, .finite n2 s2 e2 =>
      ofRatio (n1 != n2) (s1 <<< (e1 - e2).toNat) (s2 <<< (e2 - e1).toNat)
  | _, _ => .nan

/-- Is the first number at most the second?  Nothing compares with `nan`. -/
def le : Binary64 → Binary64 → Bool
  | .nan, _ => false
  | _, .nan => false
  | .infinite true, _ => true
  | _, .infinite false => true
  | .infinite false, _ => false
  | _, .infinite true => false
  | .finite n1 s1 e1, .finite n2 s2 e2 => scaled n1 s1 e1 ≤ scaled n2 s2 e2

/-- Equality of numbers: the two zeros are equal. -/
def same (one other : Binary64) : Bool := one = other || (one.isZero && other.isZero)

theorem same_refl (number : Binary64) : number.same number = true := by simp [same]

/-! ## Examples

One third, a tie that goes to the even neighbour, the least positive double
and a number that is too large. -/

example : ofRatio false 1 3 = .finite false 6004799503160661 (-54) := by decide
example : ofNat (Nat.pow 2 53 + 1) = .finite false (Nat.pow 2 52) 1 := by decide
example : ofDecimal false 5 (-324) = .finite false 1 (-1074) := by decide +kernel
example : ofDecimal false 2 308 = .infinite false := by decide +kernel

end Binary64

end PoolOperator
