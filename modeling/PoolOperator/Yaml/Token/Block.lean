import PoolOperator.Yaml.Mark

/-!
# Block scalars

A block scalar starts with a header line, which may give its indentation and
say what becomes of the line breaks at its end.  Without a given indentation,
the first lines decide: it is the greatest column up to the first line that
holds anything.  The lines keep their breaks in a literal scalar.  In a folded
one they are joined like the lines of a plain scalar, unless one of them begins
with a blank.
-/

namespace PoolOperator.Yaml

/-- What becomes of the line breaks at the end of a block scalar. -/
inductive Chomping where
  /-- None is kept. -/
  | strip
  /-- One is kept. -/
  | clip
  /-- All are kept. -/
  | keep
  deriving DecidableEq, Repr, Inhabited

/-- An error in a block scalar. -/
def blockError (problem : String) (mark start : Mark) : Error :=
  ⟨problem, mark, some ("while scanning a block scalar", start)⟩

/-! ## The header -/

/-- Reads a chomping mark, if there is one. -/
def readChomping : Cursor → Option Chomping × Cursor
  | ⟨'+' :: rest, mark⟩ => (some .keep, ⟨rest, mark.right 1⟩)
  | ⟨'-' :: rest, mark⟩ => (some .strip, ⟨rest, mark.right 1⟩)
  | cursor => (none, cursor)

/-- Reads an indentation, if there is one. -/
def readIncrement (start : Mark) : Cursor → Except Error (Option Nat × Cursor)
  | ⟨char :: rest, mark⟩ =>
      if char = '0' then
        .error (blockError "found an indentation indicator equal to 0" mark start)
      else if char.isDigit then .ok (some (char.toNat - '0'.toNat), ⟨rest, mark.right 1⟩)
      else .ok (none, ⟨char :: rest, mark⟩)
  | cursor => .ok (none, cursor)

/-- Reads the two marks of a header, in any order. -/
def readBlockMarks (start : Mark) (cursor : Cursor) :
    Except Error (Chomping × Option Nat × Cursor) := do
  match readChomping cursor with
  | (some chomping, cursor) =>
      let (increment, cursor) ← readIncrement start cursor
      return (chomping, increment, cursor)
  | (none, cursor) =>
      let (increment, cursor) ← readIncrement start cursor
      match increment with
      | none => return (.clip, none, cursor)
      | some _ =>
          let (chomping, cursor) := readChomping cursor
          return (chomping.getD .clip, increment, cursor)

/-- Skips the characters of a kind, none of them a line break. -/
def Cursor.skipWhile (kind : Char → Bool) (cursor : Cursor) : Cursor :=
  cursor.skip (cursor.rest.takeWhile kind).length

/-- Skips spaces, tabs and a comment up to the end of the line. -/
def Cursor.skipComment (cursor : Cursor) : Cursor :=
  let cursor := cursor.skipWhile isGap
  match cursor.rest with
  | '#' :: _ => cursor.skipWhile fun char => !isBreak char
  | _ => cursor

/-- Skips a line break; nothing if the line goes on. -/
def Cursor.skipBreak? (cursor : Cursor) : Option Cursor :=
  match cursor.rest with
  | [] => some cursor
  | char :: rest => if isBreak char then some ⟨rest, cursor.mark.past char⟩ else none

/-! ## The lines -/

/-- The greatest column before the first character that is neither a space nor
a line break. -/
def leadingColumn (start : Mark) (greatest : Nat) : List Char → Mark → Except Error Nat
  | [], mark => .ok (max greatest mark.column)
  | char :: rest, mark =>
      if char = ' ' then leadingColumn start greatest rest (mark.right 1)
      else if char = '\t' then
        .error
          (blockError "found a tab character where an indentation space is expected" mark start)
      else if isBreak char then
        leadingColumn start (max greatest mark.column) rest (mark.past char)
      else .ok (max greatest mark.column)

/-- What was read of a block scalar. -/
structure BlockLines where
  /-- Is a line being read, and not the indentation of the next one? -/
  inLine : Bool := false
  /-- The characters, last one first. -/
  done : List Char := []
  /-- The break of the last line. -/
  first : Option Char := none
  /-- The breaks of the empty lines after it, last one first. -/
  others : List Char := []
  /-- Does the last line begin with a blank? -/
  blankLine : Bool := false
  deriving Repr, Inhabited

namespace BlockLines

/-- The characters with the breaks that precede a further line. -/
def joined (lines : BlockLines) (folded blankLine : Bool) : List Char :=
  let breaks :=
    if folded && lines.first = some '\n' && !lines.blankLine && !blankLine then
      if lines.others.isEmpty then [' '] else lines.others
    else lines.others ++ lines.first.toList
  breaks ++ lines.done

/-- The text, with some of the breaks at its end. -/
def text (lines : BlockLines) : Chomping → String
  | .strip => String.ofList lines.done.reverse
  | .clip => String.ofList (lines.first.toList ++ lines.done).reverse
  | .keep => String.ofList (lines.others ++ lines.first.toList ++ lines.done).reverse

end BlockLines

/-- Reads the lines of a block scalar with a given indentation. -/
def readBlockLines (folded : Bool) (indent : Nat) (start : Mark) (lines : BlockLines) :
    List Char → Mark → Except Error (BlockLines × Cursor)
  | [], mark => .ok (lines, ⟨[], mark⟩)
  | char :: rest, mark =>
      if lines.inLine then
        if isBreak char then
          readBlockLines folded indent start { lines with inLine := false, first := some char }
            rest (mark.past char)
        else
          readBlockLines folded indent start { lines with done := char :: lines.done }
            rest (mark.right 1)
      else if isBreak char then
        readBlockLines folded indent start { lines with others := char :: lines.others }
          rest (mark.past char)
      else if mark.column < indent then
        if char = ' ' then readBlockLines folded indent start lines rest (mark.right 1)
        else if char = '\t' then
          .error
            (blockError "found a tab character where an indentation space is expected" mark start)
        else .ok (lines, ⟨char :: rest, mark⟩)
      else
        let blankLine := isGap char
        readBlockLines folded indent start
          { inLine := true, done := char :: lines.joined folded blankLine, blankLine }
          rest (mark.right 1)

/-- Reads a block scalar, from after the character that starts it.  `parent` is
the indentation around it. -/
def readBlock (folded : Bool) (parent : Int) (start : Mark) (cursor : Cursor) :
    Except Error (String × Cursor) := do
  let (chomping, increment, cursor) ← readBlockMarks start cursor
  let cursor := cursor.skipComment
  match cursor.skipBreak? with
  | none => throw (blockError "did not find expected comment or line break" cursor.mark start)
  | some cursor =>
      let indent ← match increment with
        | some increment => pure ((max parent 0).toNat + increment)
        | none => do
            let column ← leadingColumn start 0 cursor.rest cursor.mark
            pure (max column (max (parent + 1) 1).toNat)
      let (lines, cursor) ← readBlockLines folded indent start {} cursor.rest cursor.mark
      return (lines.text chomping, cursor)

end PoolOperator.Yaml
