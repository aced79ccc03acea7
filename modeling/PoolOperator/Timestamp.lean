import PoolOperator.Text.CharClass

/-!
# Timestamps

A moment in universal time, in whole seconds.  `Timestamp.ofText` reads the
internet date and time format, somewhat liberally: a number may have blanks
before it and need not have all its digits, and a blank may stand for the `T`.
The offset is required.  `Timestamp.text` writes the strict form, with `Z` as
the offset.

A minute may have a second number sixty, and a timestamp keeps it.
-/

namespace PoolOperator

/-- A day of the calendar. -/
structure Date where
  /-- The year, also before the first one. -/
  year : Int
  /-- The month, from one. -/
  month : Nat
  /-- The day of the month, from one. -/
  day : Nat
  deriving DecidableEq, Repr, Inhabited

namespace Date

/-- Does the year have a leap day? -/
def isLeap (year : Int) : Bool := year % 4 = 0 && (year % 100 ≠ 0 || year % 400 = 0)

/-- The number of days in a month. -/
def daysIn (year : Int) (month : Nat) : Nat :=
  if month = 2 then (if isLeap year then 29 else 28)
  else if month = 4 ∨ month = 6 ∨ month = 9 ∨ month = 11 then 30
  else 31

/-- The years that a date may have. -/
def inRange (date : Date) : Bool := -262143 ≤ date.year && date.year ≤ 262142

/-- Is there such a day? -/
def isDay (date : Date) : Bool :=
  1 ≤ date.month && date.month ≤ 12 && 1 ≤ date.day && date.day ≤ daysIn date.year date.month
    && date.inRange

/-- The next day. -/
def next (date : Date) : Date :=
  if date.day < daysIn date.year date.month then { date with day := date.day + 1 }
  else if date.month < 12 then ⟨date.year, date.month + 1, 1⟩
  else ⟨date.year + 1, 1, 1⟩

/-- The day before. -/
def previous (date : Date) : Date :=
  if 1 < date.day then { date with day := date.day - 1 }
  else if 1 < date.month then ⟨date.year, date.month - 1, daysIn date.year (date.month - 1)⟩
  else ⟨date.year - 1, 12, 31⟩

example : Date.next ⟨2023, 2, 28⟩ = ⟨2023, 3, 1⟩ ∧ Date.next ⟨2024, 2, 28⟩ = ⟨2024, 2, 29⟩ := by
  decide

example : Date.previous ⟨2000, 3, 1⟩ = ⟨2000, 2, 29⟩ ∧ Date.previous ⟨0, 1, 1⟩ = ⟨-1, 12, 31⟩ := by
  decide

end Date

/-- A moment in universal time. -/
structure Timestamp where
  /-- The day. -/
  date : Date
  /-- The hour, from zero. -/
  hour : Nat
  /-- The minute, from zero. -/
  minute : Nat
  /-- The second, from zero, at most sixty. -/
  second : Nat
  deriving DecidableEq, Repr, Inhabited

/-- Why a text is no timestamp. -/
inductive TimestampError where
  /-- A number is too large, or there is no such day. -/
  | outOfRange
  /-- The moment is not within the calendar. -/
  | impossible
  /-- An unexpected character. -/
  | invalid
  /-- The text ends too early. -/
  | tooShort
  /-- The text goes on after the timestamp. -/
  | tooLong
  deriving DecidableEq, Repr, Inhabited

/-- The text of a timestamp error. -/
def TimestampError.message : TimestampError → String
  | .outOfRange => "input is out of range"
  | .impossible => "no possible date and time matching input"
  | .invalid => "input contains invalid characters"
  | .tooShort => "premature end of input"
  | .tooLong => "trailing input"

namespace Timestamp

/-! ## Writing -/

/-- A number with at least some digits. -/
def padded (width number : Nat) : String :=
  let digits := Nat.toDigits 10 number
  String.ofList (List.replicate (width - digits.length) '0' ++ digits)

/-- A year has four digits, with a sign if it is negative or has more. -/
def yearText (year : Int) : String :=
  if 0 ≤ year ∧ year ≤ 9999 then padded 4 year.toNat
  else (if year < 0 then "-" else "+") ++ padded 4 year.natAbs

/-- The text of a timestamp. -/
def text (time : Timestamp) : String :=
  yearText time.date.year ++ "-" ++ padded 2 time.date.month ++ "-" ++ padded 2 time.date.day
    ++ "T" ++ padded 2 time.hour ++ ":" ++ padded 2 time.minute ++ ":" ++
    padded 2 time.second ++ "Z"

/-! ## Reading -/

/-- Skips blanks. -/
def skipBlanks (text : List Char) : List Char := text.dropWhile Text.isBlank

/-- Reads a number of at least one digit, and at most `width` digits where
there is a limit. -/
def readNumber (width : Option Nat) (text : List Char) : Except TimestampError (Nat × List Char) :=
  let digits := text.takeWhile Char.isDigit
  let digits := match width with
    | some width => digits.take width
    | none => digits
  let number := digits.foldl (fun sum digit => sum * 10 + (digit.toNat - '0'.toNat)) 0
  match digits, text with
  | [], [] => .error .tooShort
  | [], _ => .error .invalid
  | _, _ =>
      if number ≥ Nat.pow 2 63 then .error .outOfRange else .ok (number, text.drop digits.length)

/-- Reads a number of one or two digits between two limits. -/
def readPart (least greatest : Nat) (text : List Char) :
    Except TimestampError (Nat × List Char) := do
  let (number, rest) ← readNumber (some 2) (skipBlanks text)
  if number < least ∨ number > greatest then throw .outOfRange
  return (number, rest)

/-- Reads a year: four digits at most, or a sign and any number of digits. -/
def readYear (text : List Char) : Except TimestampError (Int × List Char) := do
  let (year, rest) ← match skipBlanks text with
    | '-' :: text => (readNumber none text).map fun (number, rest) => (-(number : Int), rest)
    | '+' :: text => (readNumber none text).map fun (number, rest) => ((number : Int), rest)
    | text => (readNumber (some 4) text).map fun (number, rest) => ((number : Int), rest)
  if year < -(Nat.pow 2 31) ∨ year ≥ Nat.pow 2 31 then throw .outOfRange
  return (year, rest)

/-- Reads a separator, which may have blanks before it. -/
def readSeparator (separator : Char) (text : List Char) : Except TimestampError (List Char) :=
  match skipBlanks text with
  | [] => .error .tooShort
  | char :: rest => if char = separator then .ok rest else .error .invalid

/-- Skips a point and the digits of a fraction. -/
def skipFraction (text : List Char) : Except TimestampError (List Char) :=
  match text with
  | '.' :: rest =>
      match rest with
      | [] => .error .tooShort
      | digit :: rest =>
          if digit.isDigit then .ok (rest.dropWhile Char.isDigit) else .error .invalid
  | text => .ok text

/-- Reads two digits. -/
def readTwoDigits (text : List Char) : Except TimestampError (Nat × List Char) :=
  match text with
  | tens :: ones :: rest =>
      if tens.isDigit && ones.isDigit then
        .ok ((tens.toNat - '0'.toNat) * 10 + (ones.toNat - '0'.toNat), rest)
      else .error .invalid
  | _ => .error .tooShort

/-- Reads an offset from universal time, in minutes. -/
def readOffset (text : List Char) : Except TimestampError (Int × List Char) :=
  let signed (sign : Int) (text : List Char) : Except TimestampError (Int × List Char) := do
    let (hours, rest) ← readTwoDigits text
    let (minutes, rest) ← readTwoDigits
      (rest.dropWhile fun char => char = ':' || Text.isBlank char)
    if minutes ≥ 60 then throw .outOfRange
    return (sign * (hours * 60 + minutes : Nat), rest)
  match text with
  | [] => .error .tooShort
  | 'Z' :: rest => .ok (0, rest)
  | 'z' :: rest => .ok (0, rest)
  | '+' :: rest => signed 1 rest
  | '-' :: rest => signed (-1) rest
  | '\u2212' :: rest => signed (-1) rest
  | first :: rest =>
      if (first :: rest.take 2).map Char.toUpper = ['U', 'T', 'C'] then .ok (0, rest.drop 2)
      else .error .invalid

/-- The moment with an offset from universal time. -/
def shift (time : Timestamp) (offset : Int) : Timestamp :=
  let minutes : Int := time.hour * 60 + time.minute - offset
  let date :=
    if minutes < 0 then time.date.previous
    else if minutes ≥ 1440 then time.date.next
    else time.date
  let within := (minutes % 1440).toNat
  { date, hour := within / 60, minute := within % 60, second := time.second }

/-- The timestamp that a text stands for. -/
def ofText (text : String) : Except TimestampError Timestamp := do
  let (year, rest) ← readYear text.toList
  let rest ← readSeparator '-' rest
  let (month, rest) ← readPart 1 12 rest
  let rest ← readSeparator '-' rest
  let (day, rest) ← readPart 1 31 rest
  let rest ← match rest with
    | [] => throw .tooShort
    | mark :: rest => if mark ∈ ['t', 'T', ' '] then pure rest else throw .invalid
  let (hour, rest) ← readPart 0 23 rest
  let rest ← readSeparator ':' rest
  let (minute, rest) ← readPart 0 59 rest
  let rest ← readSeparator ':' rest
  let (second, rest) ← readPart 0 60 rest
  let rest ← skipFraction rest
  let (offset, rest) ← readOffset (skipBlanks rest)
  if !(skipBlanks rest).isEmpty then throw .tooLong
  let date : Date := ⟨year, month, day⟩
  if !date.isDay ∨ offset.natAbs ≥ 1440 then throw .outOfRange
  let time := shift ⟨date, hour, minute, second⟩ offset
  if !time.date.inRange then throw .impossible
  return time

example : (ofText "2024-01-01t00:30:07.9+01:00").toOption.map text =
  some "2023-12-31T23:30:07Z" := by
  decide +kernel

end Timestamp

end PoolOperator
