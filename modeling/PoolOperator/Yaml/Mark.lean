/-!
# Places in a YAML text

A place is a line and a column.  Before anything else, the line breaks of a
text are brought into one form (`unifyBreaks`), so that a character alone tells
how the place changes when it is passed (`Mark.past`).

An error has a place, and often a second one, where the construct begins that
could not be read.  A place at the very beginning is not written.
-/

namespace PoolOperator.Yaml

/-- A place in a text, counted from zero. -/
structure Mark where
  /-- The line. -/
  line : Nat
  /-- The column. -/
  column : Nat
  deriving DecidableEq, Repr, Inhabited

/-! ## Characters -/

/-- A space or a tab. -/
def isGap (char : Char) : Bool := char = ' ' || char = '\t'

/-- A character that ends a line. -/
def isBreak (char : Char) : Bool := char = '\n' || char = '\u2028' || char = '\u2029'

/-- A letter or digit of ASCII, an underscore or a hyphen. -/
def isNameChar (char : Char) : Bool := char.isAlphanum || char = '_' || char = '-'

/-- Does the text end here, or go on with a space, a tab or a line break? -/
def blankAhead : List Char → Bool
  | [] => true
  | char :: _ => isGap char || isBreak char

/-- Does the text go on with a document marker? -/
def documentMarkAhead : List Char → Bool
  | '-' :: '-' :: '-' :: rest => blankAhead rest
  | '.' :: '.' :: '.' :: rest => blankAhead rest
  | _ => false

/-- The text with all common line breaks as line feeds.  The line and paragraph
separators stay as they are. -/
def unifyBreaks : List Char → List Char
  | [] => []
  | '\r' :: '\n' :: rest => '\n' :: unifyBreaks rest
  | char :: rest =>
      (if char = '\r' || char = '\x85' then '\n' else char) :: unifyBreaks rest

/-- May the character stand in a YAML text? -/
def isAllowed (char : Char) : Bool :=
  let code := char.toNat
  code = 0x09 || code = 0x0A || code = 0x0D || (0x20 ≤ code && code ≤ 0x7E) || code = 0x85
    || (0xA0 ≤ code && code ≤ 0xD7FF) || (0xE000 ≤ code && code ≤ 0xFFFD) || 0x10000 ≤ code

/-! ## Places -/

namespace Mark

/-- The beginning of a text. -/
def start : Mark := ⟨0, 0⟩

/-- The place some columns further. -/
def right (mark : Mark) (columns : Nat) : Mark := { mark with column := mark.column + columns }

/-- The place after a character. -/
def past (mark : Mark) (char : Char) : Mark :=
  if isBreak char then ⟨mark.line + 1, 0⟩ else mark.right 1

/-- Is a place before another one? -/
def isBefore (mark other : Mark) : Bool :=
  mark.line < other.line || (mark.line = other.line && mark.column < other.column)

/-- The text of a place. -/
def text (mark : Mark) : String := s!"line {mark.line + 1} column {mark.column + 1}"

/-- The place as it is added to an error text. -/
def suffix (mark : Mark) : String := if mark = start then "" else " at " ++ mark.text

end Mark

/-- What is left of a text, and where it begins. -/
structure Cursor where
  /-- The text that is left. -/
  rest : List Char
  /-- Where it begins. -/
  mark : Mark
  deriving Repr, Inhabited

/-- The cursor some characters further, none of them a line break. -/
def Cursor.skip (cursor : Cursor) (count : Nat) : Cursor :=
  ⟨cursor.rest.drop count, cursor.mark.right count⟩

/-! ## Errors -/

/-- Why a YAML text cannot be read. -/
structure Error where
  /-- What is wrong. -/
  problem : String
  /-- Where it is wrong. -/
  mark : Mark
  /-- What was being read, and where that begins. -/
  context : Option (String × Mark) := none
  deriving DecidableEq, Repr, Inhabited

/-- The text of a YAML error. -/
def Error.message (error : Error) : String :=
  error.problem ++ error.mark.suffix ++
    match error.context with
    | none => ""
    | some (context, mark) => ", " ++ context ++ if mark = error.mark then "" else mark.suffix

end PoolOperator.Yaml
