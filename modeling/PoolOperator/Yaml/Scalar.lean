import PoolOperator.Number.Binary64
import PoolOperator.Value.Text

/-!
# The meaning of plain scalars

A plain scalar may stand for null, a truth value or a number.  The rules are
those of YAML 1.2.  `no` and `on` are texts, and so is a number with a leading
zero.  A whole number may be written to the base of two, eight or sixteen.
-/

namespace PoolOperator.Yaml

/-- Does a scalar that is not empty stand for null? -/
def isNullText (text : String) : Bool := text ∈ ["null", "Null", "NULL", "~"]

/-- The truth value that a scalar stands for. -/
def boolText? (text : String) : Option Bool :=
  if text ∈ ["true", "True", "TRUE"] then some true
  else if text ∈ ["false", "False", "FALSE"] then some false
  else none

/-- The text without a sign at its start. -/
def dropSign : List Char → List Char
  | '+' :: rest => rest
  | '-' :: rest => rest
  | text => text

/-- Is this a number with a leading zero?  Such a number is a text. -/
def hasLeadingZero (text : List Char) : Bool :=
  match dropSign text with
  | '0' :: digit :: digits => (digit :: digits).all Char.isDigit
  | _ => false

/-- The number that the digits of a base stand for. -/
def natOfDigits? (base : Nat) (digits : List Char) : Option Nat :=
  if digits.isEmpty then none
  else digits.foldl
    (fun sum digit => do
      let digit ← Value.hexDigit? digit
      if digit < base then return (← sum) * base + digit else none)
    (some 0)

/-- The number that a text without a sign stands for, the mark of its base
included. -/
def natOfBase? : List Char → Option Nat
  | '0' :: 'x' :: digits => natOfDigits? 16 digits
  | '0' :: 'o' :: digits => natOfDigits? 8 digits
  | '0' :: 'b' :: digits => natOfDigits? 2 digits
  | _ => none

/-- The whole number that a scalar stands for. -/
def intText? (text : String) : Option Int :=
  let text := text.toList
  match text with
  | '-' :: rest =>
      match natOfBase? rest with
      | some number => some (-(number : Int))
      | none => if hasLeadingZero text then none else (natOfDigits? 10 rest).map fun number =>
          -(number : Int)
  | _ =>
      let rest := match text with
        | '+' :: rest => rest
        | text => text
      match natOfBase? rest with
      | some number => some (number : Int)
      | none => if hasLeadingZero text then none else (natOfDigits? 10 rest).map fun number =>
          (number : Int)

/-- The double that a text in decimal notation stands for. -/
def decimalText? (text : List Char) : Option Binary64 := do
  let (negative, rest) := match text with
    | '-' :: rest => (true, rest)
    | rest => (false, rest)
  let (whole, rest) := Value.splitDigits rest
  let (fraction, rest) := match rest with
    | '.' :: rest => Value.splitDigits rest
    | rest => ([], rest)
  if whole.isEmpty && fraction.isEmpty then none
  else
    let (exponent, rest) ← Value.readExponent rest
    if !rest.isEmpty then none
    else
      let digits := Value.digitsToNat (whole ++ fraction)
      return .ofDecimal negative digits (exponent.getD 0 - fraction.length)

/-- The double that a scalar stands for.  A number beyond the greatest double
is a text. -/
def floatText? (text : String) : Option Binary64 :=
  if text ∈ [".inf", ".Inf", ".INF", "+.inf", "+.Inf", "+.INF"] then some (.infinite false)
  else if text ∈ ["-.inf", "-.Inf", "-.INF"] then some (.infinite true)
  else if text ∈ [".nan", ".NaN", ".NAN"] then some .nan
  else
    let number := match text.toList with
      | '+' :: '-' :: _ => none
      | '+' :: rest => decimalText? rest
      | rest => decimalText? rest
    match number with
    | some (.finite negative significand exponent) => some (.finite negative significand exponent)
    | _ => none

/-- What a plain scalar stands for. -/
inductive Meaning where
  /-- Null. -/
  | null
  /-- A truth value. -/
  | bool (value : Bool)
  /-- A whole number. -/
  | int (value : Int)
  /-- A double. -/
  | float (value : Binary64)
  /-- The text itself. -/
  | text
  deriving DecidableEq, Repr, Inhabited

/-- Is a whole number within the limits of any integer type? -/
def isCounted (number : Int) : Bool := -(Nat.pow 2 127) ≤ number && number < Nat.pow 2 128

/-- What a plain scalar stands for.  A whole number that no integer type holds
counts as a double. -/
def Meaning.of (text : String) : Meaning :=
  if text = "" || isNullText text then .null
  else
    match boolText? text with
    | some value => .bool value
    | none =>
        match (intText? text).filter isCounted with
        | some number => .int number
        | none =>
            if hasLeadingZero text.toList then .text
            else
              match floatText? text with
              | some number => .float number
              | none => .text

example : Meaning.of "~" = .null ∧ Meaning.of "-0x1F" = .int (-31) ∧ Meaning.of "007" = .text
    ∧ Meaning.of "+12" = .int 12 ∧ Meaning.of "1_000" = .text := by decide +kernel

end PoolOperator.Yaml
