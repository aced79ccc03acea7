import PoolOperator.Value

/-!
# JSON text

Reading and writing JSON.  `Value.ofText?` accepts one value with blanks around
it.  The members of an object come out in the order of the text, with repeated
keys, so that a reader of records can refuse a repeated member;
`Value.canonical` orders them.

A number without point and exponent that fits in sixty-four bits is a whole
number.  Any other number is a double, computed from the digits that fit in
sixty-four bits and a power of ten, with one rounding each.  That is not always
the nearest double, and it is the number that the cluster's own reader takes
the text for.  A number beyond the greatest double is refused.
-/

namespace PoolOperator

namespace Value

/-! ## Numbers -/

/-- Adds decimal digits to a significand while it fits in sixty-four bits.
Returns it with the digits that were left. -/
def gather : Nat → List Char → Nat × List Char
  | significand, [] => (significand, [])
  | significand, digit :: digits =>
      let next := significand * 10 + (digit.toNat - '0'.toNat)
      if next > greatestInt.toNat then (significand, digit :: digits) else gather next digits

/-- `± significand · 10 ^ exponent`, by one multiplication or division with a
power of ten, or several where the power is too small to be written.  Nothing
if the result is too large. -/
def scaleByTen (negative : Bool) : Nat → Binary64 → Int → Option Binary64
  | 0, _, _ => some (Binary64.zero negative)
  | fuel + 1, number, exponent =>
      if number.isZero then some (Binary64.zero negative)
      else if exponent > 308 then none
      else if exponent ≥ 0 then
        match number.mul (Binary64.ofDecimal false 1 exponent) with
        | .infinite _ => none
        | product => some (if negative then product.negate else product)
      else if exponent ≥ -308 then
        let quotient := number.div (Binary64.ofDecimal false 1 (-exponent))
        some (if negative then quotient.negate else quotient)
      else scaleByTen negative fuel (number.div (Binary64.ofDecimal false 1 308)) (exponent + 308)

/-- The parts of a number in a text. -/
structure NumberText where
  /-- Is there a minus sign? -/
  negative : Bool
  /-- The digits before the point. -/
  whole : List Char
  /-- The digits after the point, if there is one. -/
  fraction : Option (List Char)
  /-- The exponent, if there is one. -/
  exponent : Option Int

/-- The number that a text stands for. -/
def NumberText.value? (text : NumberText) : Option Value :=
  let (significand, skipped) := gather 0 text.whole
  match skipped, text.fraction, text.exponent with
  | [], none, none =>
      if text.negative then
        if significand = 0 ∨ significand > Nat.pow 2 63 then
          some (.float (Binary64.ofNat significand).negate)
        else some (.int (-significand))
      else some (.int significand)
  | _, _, _ =>
      let fraction := text.fraction.getD []
      let (significand, dropped) := gather significand fraction
      let exponent : Int :=
        skipped.length - (fraction.length - dropped.length) + text.exponent.getD 0
      (scaleByTen text.negative 4 (Binary64.ofNat significand) exponent).map .float

/-- The longest run of decimal digits at the start, and the rest. -/
def splitDigits (text : List Char) : List Char × List Char :=
  (text.takeWhile Char.isDigit, text.dropWhile Char.isDigit)

/-- The number that decimal digits stand for. -/
def digitsToNat (digits : List Char) : Nat :=
  digits.foldl (fun sum digit => sum * 10 + (digit.toNat - '0'.toNat)) 0

/-- Reads the exponent of a number, if one follows. -/
def readExponent (text : List Char) : Option (Option Int × List Char) :=
  match text with
  | mark :: rest =>
      if mark = 'e' ∨ mark = 'E' then
        let (negative, rest) := match rest with
          | '+' :: rest => (false, rest)
          | '-' :: rest => (true, rest)
          | rest => (false, rest)
        match splitDigits rest with
        | ([], _) => none
        | (digits, rest) =>
            let size : Int := digitsToNat digits
            some (some (if negative then -size else size), rest)
      else some (none, text)
  | [] => some (none, text)

/-- Reads a number.  A zero before the point stands alone, and a point has
digits after it. -/
def readNumber (text : List Char) : Option (Value × List Char) := do
  let (negative, text) := match text with
    | '-' :: rest => (true, rest)
    | text => (false, text)
  let (whole, text) := splitDigits text
  if whole.isEmpty || (whole.length > 1 && whole.head? = some '0') then none
  else
    let (fraction, text) ← match text with
      | '.' :: rest =>
          match splitDigits rest with
          | ([], _) => none
          | (digits, rest) => some (some digits, rest)
      | text => some (none, text)
    let (exponent, text) ← readExponent text
    let value ← NumberText.value? ⟨negative, whole, fraction, exponent⟩
    return (value, text)

/-! ## Texts in quotes -/

/-- The value of a hexadecimal digit. -/
def hexDigit? (digit : Char) : Option Nat :=
  if digit.isDigit then some (digit.toNat - '0'.toNat)
  else if 'a' ≤ digit ∧ digit ≤ 'f' then some (digit.toNat - 'a'.toNat + 10)
  else if 'A' ≤ digit ∧ digit ≤ 'F' then some (digit.toNat - 'A'.toNat + 10)
  else none

/-- The number of four hexadecimal digits. -/
def hexQuad? (a b c d : Char) : Option Nat := do
  return (((← hexDigit? a) * 16 + (← hexDigit? b)) * 16 + (← hexDigit? c)) * 16 + (← hexDigit? d)

/-- The character that a letter after a backslash stands for. -/
def shortEscape? : Char → Option Char
  | '\x22' => some '\x22'
  | '\\' => some '\\'
  | '/' => some '/'
  | 'b' => some '\x08'
  | 'f' => some '\x0c'
  | 'n' => some '\n'
  | 'r' => some '\r'
  | 't' => some '\t'
  | _ => none

/-- Reads the rest of a quoted text.  `done` is what was read, last character
first. -/
def readQuoted (done : List Char) : List Char → Option (String × List Char)
  | '\x22' :: rest => some (String.ofList done.reverse, rest)
  | '\\' :: 'u' :: a :: b :: c :: d :: rest =>
      match hexQuad? a b c d with
      | none => none
      | some unit =>
          if 0xD800 ≤ unit ∧ unit < 0xDC00 then
            match rest with
            | '\\' :: 'u' :: a :: b :: c :: d :: rest =>
                match hexQuad? a b c d with
                | some low =>
                    if 0xDC00 ≤ low ∧ low < 0xE000 then
                      readQuoted
                        (Char.ofNat (0x10000 + (unit - 0xD800) * 0x400 + (low - 0xDC00)) :: done)
                        rest
                    else none
                | none => none
            | _ => none
          else if 0xDC00 ≤ unit ∧ unit < 0xE000 then none
          else readQuoted (Char.ofNat unit :: done) rest
  | '\\' :: letter :: rest =>
      match shortEscape? letter with
      | some char => readQuoted (char :: done) rest
      | none => none
  | char :: rest => if char.toNat < 0x20 ∨ char = '\\' then none else readQuoted (char :: done) rest
  | [] => none

/-! ## Values -/

/-- Skips blanks. -/
def skipBlanks (text : List Char) : List Char :=
  text.dropWhile fun char => char = ' ' || char = '\n' || char = '\t' || char = '\r'

mutual

/-- Reads one value.  The first argument bounds the number of steps; twice the
length of the text is enough. -/
def readValue : Nat → List Char → Option (Value × List Char)
  | 0, _ => none
  | fuel + 1, text =>
      match skipBlanks text with
      | 'n' :: 'u' :: 'l' :: 'l' :: rest => some (.null, rest)
      | 't' :: 'r' :: 'u' :: 'e' :: rest => some (.bool true, rest)
      | 'f' :: 'a' :: 'l' :: 's' :: 'e' :: rest => some (.bool false, rest)
      | '\x22' :: rest => (readQuoted [] rest).map fun (text, rest) => (.str text, rest)
      | '[' :: rest =>
          match skipBlanks rest with
          | ']' :: rest => some (.arr [], rest)
          | rest => (readItems fuel rest).map fun (items, rest) => (.arr items, rest)
      | '\x7b' :: rest =>
          match skipBlanks rest with
          | '\x7d' :: rest => some (.obj [], rest)
          | rest => (readMembers fuel rest).map fun (members, rest) => (.obj members, rest)
      | text => readNumber text

/-- Reads the items of a list, up to the closing bracket. -/
def readItems : Nat → List Char → Option (List Value × List Char)
  | 0, _ => none
  | fuel + 1, text => do
      let (item, rest) ← readValue fuel text
      match skipBlanks rest with
      | ',' :: rest =>
          let (items, rest) ← readItems fuel rest
          return (item :: items, rest)
      | ']' :: rest => return ([item], rest)
      | _ => none

/-- Reads the members of an object, up to the closing brace. -/
def readMembers : Nat → List Char → Option (List (String × Value) × List Char)
  | 0, _ => none
  | fuel + 1, text => do
      match skipBlanks text with
      | '\x22' :: rest =>
          let (key, rest) ← readQuoted [] rest
          match skipBlanks rest with
          | ':' :: rest =>
              let (value, rest) ← readValue fuel rest
              match skipBlanks rest with
              | ',' :: rest =>
                  let (members, rest) ← readMembers fuel rest
                  return ((key, value) :: members, rest)
              | '\x7d' :: rest => return ([(key, value)], rest)
              | _ => none
          | _ => none
      | _ => none

end

/-- The value that a text stands for, with the members of its objects in the
order of the text. -/
def ofText? (text : String) : Option Value :=
  let chars := text.toList
  match readValue (2 * chars.length + 2) chars with
  | some (value, rest) => if (skipBlanks rest).isEmpty then some value else none
  | none => none

/-! ## Writing -/

/-- The text of a hexadecimal number, padded with zeros. -/
def hexText (width number : Nat) : List Char :=
  let digits := Nat.toDigits 16 number
  List.replicate (width - digits.length) '0' ++ digits

/-- A character inside quotes. -/
def escapeChar (char : Char) : List Char :=
  match char with
  | '\x22' => ['\\', '\x22']
  | '\\' => ['\\', '\\']
  | '\x08' => ['\\', 'b']
  | '\x0c' => ['\\', 'f']
  | '\n' => ['\\', 'n']
  | '\r' => ['\\', 'r']
  | '\t' => ['\\', 't']
  | char => if char.toNat < 0x20 then '\\' :: 'u' :: hexText 4 char.toNat else [char]

/-- A text in quotes. -/
def quoted (text : String) : String :=
  String.ofList ('\x22' :: text.toList.flatMap escapeChar ++ ['\x22'])

mutual

/-- The text of a value without blanks. -/
def compact : Value → String
  | .null => "null"
  | .bool true => "true"
  | .bool false => "false"
  | .int number => toString number
  | .float number => number.compactText
  | .str text => quoted text
  | .arr items => "[" ++ ",".intercalate (compactItems items) ++ "]"
  | .obj fields => "\x7b" ++ ",".intercalate (compactFields fields) ++ "\x7d"

/-- The texts of some items. -/
def compactItems : List Value → List String
  | [] => []
  | item :: items => compact item :: compactItems items

/-- The texts of some members. -/
def compactFields : List (String × Value) → List String
  | [] => []
  | (key, value) :: rest => (quoted key ++ ":" ++ compact value) :: compactFields rest

end

end Value

end PoolOperator
