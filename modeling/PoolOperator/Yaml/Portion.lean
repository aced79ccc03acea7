import PoolOperator.Yaml.Mark

/-!
# How far a text is read

A text is read in portions of some thousand bytes, each of them when characters
are needed that were not read before.  A portion with a character that may not
stand in a YAML text cannot be read.  `Barrier.of?` tells where it begins.  What
is before it counts, and what comes after it is never seen.
-/

namespace PoolOperator.Yaml

/-- The greatest number of bytes in a portion. -/
def portionSize : Nat := 16384

/-- Where the first portion begins that has a character which may not stand in
a text, as a number of characters.  Of the present portion, it is known where it
begins and how many bytes have room in it. -/
def barredFrom? (begins room place : Nat) : List Char → Option Nat
  | [] => none
  | char :: rest =>
      let fits : Bool := char.utf8Size ≤ room
      let begins := if fits then begins else place
      let room := if fits then room else portionSize
      if isAllowed char then barredFrom? begins (room - char.utf8Size) (place + 1) rest
      else some begins

/-- The error of a text with a character that may not stand in it. -/
def controlError (text : List Char) : Error :=
  let place := (String.ofList (text.takeWhile isAllowed)).utf8ByteSize
  ⟨"control characters are not allowed" ++ (if place = 0 then "" else s!" at position {place}"),
    .start, none⟩

/-- The place from which on a text cannot be read. -/
structure Barrier where
  /-- The number of characters from there on. -/
  left : Nat
  /-- The place. -/
  mark : Mark
  /-- The error of what goes on to it. -/
  error : Error
  deriving Repr, Inhabited

namespace Barrier

/-- The barrier in a text, if some character may not stand in it. -/
def of? (text : List Char) : Option Barrier :=
  (barredFrom? 0 portionSize 0 text).map fun begins =>
    { left := (unifyBreaks (text.drop begins)).length
      mark := (unifyBreaks (text.take begins)).foldl Mark.past .start
      error := controlError text }

/-- Looks at some characters from a place on, which must have been read. -/
def lookAhead (barrier? : Option Barrier) (count : Nat) (cursor : Cursor) : Except Error Unit :=
  match barrier? with
  | some barrier =>
      if cursor.rest.length < barrier.left + count then .error barrier.error else .ok ()
  | none => .ok ()

/-- The error that comes first, if one was found in a text that is read up to a
barrier. -/
def first (barrier? : Option Barrier) (error : Error) : Error :=
  match barrier? with
  | some barrier => if error.mark.isBefore barrier.mark then error else barrier.error
  | none => error

end Barrier

end PoolOperator.Yaml
