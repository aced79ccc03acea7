import PoolOperator.Value.Text
import PoolOperator.Yaml.Mark

/-!
# Scalars on one or more lines

Plain scalars and scalars in quotes may go over several lines.  The blanks
around a line break are not part of the scalar, a single line break counts as a
space, and of several line breaks the first one does not count (`Gap.text`).

Each reader goes through the text character by character.  It keeps the
characters that it has read, last one first, and the blanks since the last one
of them.
-/

namespace PoolOperator.Yaml

/-- The blanks between two parts of a scalar. -/
structure Gap where
  /-- The spaces and tabs before the first line break, last one first. -/
  blanks : List Char := []
  /-- Was there a line break? -/
  broken : Bool := false
  /-- The first line break, unless it was escaped. -/
  first : Option Char := none
  /-- The other line breaks, last one first. -/
  others : List Char := []
  deriving Repr, Inhabited

namespace Gap

/-- No blanks. -/
def empty : Gap := {}

/-- Is there nothing in between? -/
def isEmpty (gap : Gap) : Bool := !gap.broken && gap.blanks.isEmpty

/-- The blanks with one more. -/
def add (gap : Gap) (char : Char) : Gap :=
  if isBreak char then
    if gap.broken then { gap with others := char :: gap.others }
    else { broken := true, first := some char }
  else if gap.broken then gap
  else { gap with blanks := char :: gap.blanks }

/-- What the blanks stand for. -/
def text (gap : Gap) : List Char :=
  if gap.broken then
    match gap.first with
    | some '\n' => if gap.others.isEmpty then [' '] else gap.others.reverse
    | some char => char :: gap.others.reverse
    | none => gap.others.reverse
  else gap.blanks.reverse

/-- Puts what the blanks stand for after some characters.  Both are kept last
character first. -/
def onto (gap : Gap) (done : List Char) : List Char := gap.text.reverseAux done

end Gap

/-! ## Plain scalars -/

/-- A character that structures flow collections. -/
def isFlowMark (char : Char) : Bool :=
  char = ',' || char = '[' || char = ']' || char = '\x7b' || char = '\x7d'

/-- Does a plain scalar end before this text?  It ends at a colon with a blank
after it, and in a flow collection at the characters that structure it. -/
def plainEndsAhead (flow : Bool) : List Char → Bool
  | [] => true
  | char :: rest => (char = ':' && blankAhead rest) || (flow && isFlowMark char)

/-- Does the text go on with a colon that is not allowed in a flow collection? -/
def badColonAhead : List Char → Bool
  | ':' :: char :: _ => isFlowMark char || char = '?'
  | _ => false

/-- The result of reading a plain scalar. -/
structure PlainScalar where
  /-- The text. -/
  text : String
  /-- Did a line end after the text? -/
  broken : Bool
  /-- What follows. -/
  after : Cursor

/-- Reads a plain scalar, which goes on as long as the lines are indented at
least to the column `indent`. -/
def readPlain (flow : Bool) (indent : Int) (start : Mark) (done : List Char) (gap : Gap) :
    List Char → Mark → Except Error PlainScalar
  | [], mark => .ok ⟨String.ofList done.reverse, gap.broken, ⟨[], mark⟩⟩
  | char :: rest, mark =>
      if isGap char || isBreak char then
        if gap.broken && mark.column < indent && char = '\t' then
          .error ⟨"found a tab character that violates indentation", mark,
            some ("while scanning a plain scalar", start)⟩
        else readPlain flow indent start done (gap.add char) rest (mark.past char)
      else if !gap.isEmpty
          && ((!flow && mark.column < indent) || char = '#'
            || (mark.column = 0 && documentMarkAhead (char :: rest))) then
        .ok ⟨String.ofList done.reverse, gap.broken, ⟨char :: rest, mark⟩⟩
      else if flow && badColonAhead (char :: rest) then
        .error ⟨"found unexpected ':'", mark, some ("while scanning a plain scalar", start)⟩
      else if plainEndsAhead flow (char :: rest) then
        .ok ⟨String.ofList done.reverse, gap.broken, ⟨char :: rest, mark⟩⟩
      else readPlain flow indent start (char :: gap.onto done) .empty rest (mark.past char)

/-! ## Scalars in quotes -/

/-- An error in a scalar in quotes. -/
def quotedError (problem : String) (mark start : Mark) : Error :=
  ⟨problem, mark, some ("while scanning a quoted scalar", start)⟩

/-- Reads the rest of a scalar in single quotes, where a quote is written
twice. -/
def readSingleQuoted (start : Mark) (done : List Char) (gap : Gap) :
    List Char → Mark → Except Error (String × Cursor)
  | [], mark => .error (quotedError "found unexpected end of stream" mark start)
  | '\'' :: '\'' :: rest, mark =>
      readSingleQuoted start ('\'' :: gap.onto done) .empty rest (mark.right 2)
  | '\'' :: rest, mark => .ok (String.ofList (gap.onto done).reverse, ⟨rest, mark.right 1⟩)
  | char :: rest, mark =>
      if mark.column = 0 && documentMarkAhead (char :: rest) then
        .error (quotedError "found unexpected document indicator" mark start)
      else if isGap char || isBreak char then
        readSingleQuoted start done (gap.add char) rest (mark.past char)
      else readSingleQuoted start (char :: gap.onto done) .empty rest (mark.past char)

/-- The character that a letter after a backslash stands for. -/
def shortEscape? : Char → Option Char
  | '0' => some '\x00'
  | 'a' => some '\x07'
  | 'b' => some '\x08'
  | 't' => some '\t'
  | '\t' => some '\t'
  | 'n' => some '\n'
  | 'v' => some '\x0b'
  | 'f' => some '\x0c'
  | 'r' => some '\r'
  | 'e' => some '\x1b'
  | ' ' => some ' '
  | '\x22' => some '\x22'
  | '/' => some '/'
  | '\\' => some '\\'
  | 'N' => some '\x85'
  | '_' => some '\xa0'
  | 'L' => some '\u2028'
  | 'P' => some '\u2029'
  | _ => none

/-- How many digits the number of a character has after a letter. -/
def escapeWidth? : Char → Option Nat
  | 'x' => some 2
  | 'u' => some 4
  | 'U' => some 8
  | _ => none

/-- The number that some hexadecimal digits stand for. -/
def hexNumber? (digits : List Char) : Option Nat :=
  digits.foldl (fun sum digit => do return (← sum) * 16 + (← Value.hexDigit? digit)) (some 0)

/-- The character with a number that is written with hexadecimal digits. -/
def numberedChar (digits : List Char) (width : Nat) : Except String Char :=
  match hexNumber? digits with
  | some number =>
      if digits.length < width then .error "did not find expected hexdecimal number"
      else if h : number.isValidChar then .ok (Char.ofNatAux number h)
      else .error "found invalid Unicode character escape code"
  | none => .error "did not find expected hexdecimal number"

/-- Reads the rest of a scalar in double quotes.  `skipping` counts the
characters that still belong to an escape. -/
def readDoubleQuoted (start : Mark) (skipping : Nat) (done : List Char) (gap : Gap) :
    List Char → Mark → Except Error (String × Cursor)
  | [], mark => .error (quotedError "found unexpected end of stream" mark start)
  | char :: rest, mark =>
      match skipping with
      | skipping + 1 => readDoubleQuoted start skipping done gap rest (mark.right 1)
      | 0 =>
        if mark.column = 0 && documentMarkAhead (char :: rest) then
          .error (quotedError "found unexpected document indicator" mark start)
        else if isGap char || isBreak char then
          readDoubleQuoted start 0 done (gap.add char) rest (mark.past char)
        else if char = '\x22' then
          .ok (String.ofList (gap.onto done).reverse, ⟨rest, mark.right 1⟩)
        else if char = '\\' then
          match rest with
          | [] =>
              .error ⟨"found unknown escape character", mark,
                some ("while parsing a quoted scalar", start)⟩
          | letter :: digits =>
              if isBreak letter then
                readDoubleQuoted start 0 (gap.onto done) { broken := true } digits
                  (mark.right 1 |>.past letter)
              else
                match shortEscape? letter, escapeWidth? letter with
                | some char, _ =>
                    readDoubleQuoted start 0 (char :: gap.onto done) .empty digits (mark.right 2)
                | none, some width =>
                    match numberedChar (digits.take width) width with
                    | .ok char =>
                        readDoubleQuoted start width (char :: gap.onto done) .empty digits
                          (mark.right 2)
                    | .error problem =>
                        .error ⟨problem, mark.right 2,
                          some ("while parsing a quoted scalar", start)⟩
                | none, none =>
                    .error ⟨"found unknown escape character", mark,
                      some ("while parsing a quoted scalar", start)⟩
        else readDoubleQuoted start 0 (char :: gap.onto done) .empty rest (mark.past char)

end PoolOperator.Yaml
