import PoolOperator.Yaml.Scalar
import PoolOperator.Yaml.Token

/-!
# Writing YAML

`write` writes a value as a YAML document in block style.  The members of an
object are written in the order that they have.  A sequence is not indented
under its key.  Lines are never folded.

A text is written plain if it reads back as the same text.  A text with line
feeds becomes a literal block.  Single quotes are next, and double quotes are
for what is left: with them, characters that would not be seen are escaped.
-/

namespace PoolOperator.Yaml

/-! ## Which style a text is written in -/

/-- May the character be written as it is? -/
def isPrintable (char : Char) : Bool :=
  let code := char.toNat
  code = 0x0A || (0x20 ≤ code && code ≤ 0x7E) || (0xA0 ≤ code && code ≤ 0xD7FF)
    || (0xE000 ≤ code && code ≤ 0xFFFD && code ≠ 0xFEFF) || 0x10000 ≤ code

/-- Is a condition true of two neighbours somewhere in a text? -/
def anyNeighbours (condition : Char → Char → Bool) : List Char → Bool
  | one :: other :: rest => condition one other || anyNeighbours condition (other :: rest)
  | _ => false

/-- Is a text free of characters that have to be escaped, and of spaces before
line breaks? -/
def isClean (text : List Char) : Bool :=
  text.all isPrintable && !anyNeighbours (fun one other => one = ' ' && isBreak other) text

/-- May a text be written in single quotes? -/
def allowsQuotes (text : List Char) : Bool :=
  isClean text && !anyNeighbours (fun one other => isBreak one && other = ' ') text

/-- May a text be written as a block? -/
def allowsBlock (text : List Char) : Bool :=
  isClean text && !text.isEmpty && text.getLast? ≠ some ' '

/-- Could a text be taken for a document marker at its beginning? -/
def startsLikeMarker : List Char → Bool
  | '-' :: '-' :: '-' :: _ => true
  | '.' :: '.' :: '.' :: _ => true
  | _ => false

/-- Could the first character of a text be taken for something else than the
beginning of a scalar? -/
def startsLikeIndicator : List Char → Bool
  | [] => false
  | char :: rest =>
      char ∈ ['#', ',', '[', ']', '\x7b', '\x7d', '&', '*', '!', '|', '>', '\'', '\x22', '%',
        '@', '\x60']
        || (char ∈ ['?', ':', '-'] && blankAhead rest)

/-- Could the rest of a text be taken for the end of a scalar?  These are a
colon with a blank after it, and a number sign with a blank before it. -/
def endsEarly (text : List Char) : Bool :=
  anyNeighbours (fun one other => (one = ':' && isGap other) || (one = ' ' && other = '#')) text
    || text.getLast? = some ':'

/-- May a text be written plain? -/
def allowsPlain (text : List Char) : Bool :=
  isClean text && !text.any isBreak && text.head? ≠ some ' ' && text.getLast? ≠ some ' '
    && !startsLikeMarker text && !startsLikeIndicator text && !endsEarly text

/-- The style that a text is written in.  A key stays on one line. -/
def styleFor (isKey : Bool) (text : String) : Style :=
  let chars := text.toList
  let quotes : Style := if allowsQuotes chars then .singleQuoted else .doubleQuoted
  if isKey && chars.any isBreak then .doubleQuoted
  else if '\n' ∈ chars then if allowsBlock chars then .literal else .doubleQuoted
  else if Meaning.of text ≠ .text || hasLeadingZero chars then quotes
  else if allowsPlain chars then .plain
  else quotes

/-! ## Scalars -/

/-- Some spaces. -/
def spaces (count : Nat) : List Char := List.replicate count ' '

/-- The inside of single quotes.  After line breaks, the line is indented.
`broken` tells whether the last character was a line break. -/
def quotedLines (indent : Nat) (broken : Bool) : List Char → List Char
  | [] => if broken then spaces indent else []
  | char :: rest =>
      if isBreak char then char :: quotedLines indent true rest
      else
        (if broken then spaces indent else [])
          ++ (if char = '\'' then ['\'', '\''] else [char]) ++ quotedLines indent false rest

/-- The inside of a literal block.  `broken` tells whether the last character
was a line break. -/
def literalLines (indent : Nat) (broken : Bool) : List Char → List Char
  | [] => []
  | char :: rest =>
      if isBreak char then char :: literalLines indent true rest
      else (if broken then spaces indent else []) ++ char :: literalLines indent false rest

/-- The header of a literal block: the indentation where the block does not
show it, and what becomes of the line breaks at the end. -/
def literalHeader (text : List Char) : List Char :=
  let first := match text with
    | char :: _ => if char = ' ' || isBreak char then ['2'] else []
    | [] => []
  let last := match text.reverse with
    | char :: rest =>
        if !isBreak char then ['-']
        else match rest with
          | [] => ['+']
          | char :: _ => if isBreak char then ['+'] else []
    | [] => ['-']
  '|' :: first ++ last

/-- A hexadecimal number of some digits. -/
def upperHex (width number : Nat) : List Char := (Value.hexText width number).map Char.toUpper

/-- A character with a backslash before it. -/
def escaped (char : Char) : List Char :=
  match char with
  | '\x00' => ['\\', '0']
  | '\x07' => ['\\', 'a']
  | '\x08' => ['\\', 'b']
  | '\t' => ['\\', 't']
  | '\n' => ['\\', 'n']
  | '\x0b' => ['\\', 'v']
  | '\x0c' => ['\\', 'f']
  | '\r' => ['\\', 'r']
  | '\x1b' => ['\\', 'e']
  | '\x22' => ['\\', '\x22']
  | '\\' => ['\\', '\\']
  | '\x85' => ['\\', 'N']
  | '\u2028' => ['\\', 'L']
  | '\u2029' => ['\\', 'P']
  | char =>
      let code := char.toNat
      if code ≤ 0xFF then '\\' :: 'x' :: upperHex 2 code
      else if code ≤ 0xFFFF then '\\' :: 'u' :: upperHex 4 code
      else '\\' :: 'U' :: upperHex 8 code

/-- A character inside double quotes. -/
def escapeChar (char : Char) : List Char :=
  if !isPrintable char || isBreak char || char = '\x22' || char = '\\' then escaped char else [char]

/-- A text as a scalar whose lines are indented to a column. -/
def writeText (isKey : Bool) (indent : Nat) (text : String) : List Char :=
  let chars := text.toList
  match styleFor isKey text with
  | .plain => chars
  | .singleQuoted => '\'' :: quotedLines indent false chars ++ ['\'']
  | .literal => literalHeader chars ++ '\n' :: literalLines indent true chars
  | _ => '\x22' :: chars.flatMap escapeChar ++ ['\x22']

/-- A scalar with the end of its line.  A block may end with a line break of
its own. -/
def scalarLine (scalar : List Char) : List Char :=
  if (scalar.getLast?.map isBreak).getD false then scalar else scalar ++ ['\n']

/-! ## Values -/

/-- The text of a value that takes no lines of its own. -/
def inlineText (indent : Nat) : Value → List Char
  | .null => "null".toList
  | .bool value => (if value then "true" else "false").toList
  | .int number => (toString number).toList
  | .float .nan => ".nan".toList
  | .float (.infinite negative) => (if negative then "-.inf" else ".inf").toList
  | .float number => number.compactText.toList
  | .str text => writeText false indent text
  | .arr _ => ['[', ']']
  | .obj _ => ['\x7b', '\x7d']

mutual

/-- What follows the colon of a key in a mapping at a column. -/
def afterKey (column : Nat) : Value → List Char
  | .arr (item :: items) => '\n' :: spaces column ++ writeItems column (item :: items)
  | .obj (field :: fields) =>
      '\n' :: spaces (column + 2) ++ writeFields (column + 2) (field :: fields)
  | value => ' ' :: scalarLine (inlineText (column + 2) value)

/-- What follows the hyphen of an item in a sequence at a column. -/
def afterHyphen (column : Nat) : Value → List Char
  | .arr (item :: items) => ' ' :: writeItems (column + 2) (item :: items)
  | .obj (field :: fields) => ' ' :: writeFields (column + 2) (field :: fields)
  | value => ' ' :: scalarLine (inlineText (column + 2) value)

/-- The items of a sequence at a column, where the first line begins. -/
def writeItems (column : Nat) : List Value → List Char
  | [] => []
  | [item] => '-' :: afterHyphen column item
  | item :: items => '-' :: afterHyphen column item ++ spaces column ++ writeItems column items

/-- The members of a mapping at a column, where the first line begins. -/
def writeFields (column : Nat) : List (String × Value) → List Char
  | [] => []
  | [(key, value)] => writeText true (column + 2) key ++ ':' :: afterKey column value
  | (key, value) :: fields =>
      writeText true (column + 2) key ++ ':' :: afterKey column value
        ++ spaces column ++ writeFields column fields

end

/-- A value as a YAML document. -/
def write (value : Value) : String :=
  String.ofList <|
    match value with
    | .arr (item :: items) => writeItems 0 (item :: items)
    | .obj (field :: fields) => writeFields 0 (field :: fields)
    | value => scalarLine (inlineText 2 value)

end PoolOperator.Yaml
