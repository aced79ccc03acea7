import PoolOperator.Value.Text
import PoolOperator.Yaml.Token
import PoolOperator.Yaml.Token.Block

/-!
# Anchors, tags and directives

The properties that a node may have before its content, and the lines that may
stand before a document.  A tag is either written out in angle brackets, or it
has a shorthand before it, which a directive may define.  A percent sign in a
tag starts the number of a byte.
-/

namespace PoolOperator.Yaml

/-- The longest run of characters of a kind, and the cursor after it. -/
def Cursor.takeWhile (kind : Char → Bool) (cursor : Cursor) : List Char × Cursor :=
  (cursor.rest.takeWhile kind, cursor.skipWhile kind)

/-- Does the text go on with a character? -/
def Cursor.isAt (cursor : Cursor) (char : Char) : Bool := cursor.rest.head? = some char

/-! ## Anchors -/

/-- May the character follow the name of an anchor? -/
def endsAnchor : List Char → Bool
  | [] => true
  | char :: rest =>
      blankAhead (char :: rest) || char ∈ ['?', ':', ',', ']', '\x7d', '%', '@', '\x60']

/-- Reads an anchor or an alias, from the character that starts it. -/
def readAnchor (isAlias : Bool) (cursor : Cursor) : Except Error (Token × Cursor) :=
  let start := cursor.mark
  let (name, cursor) := (cursor.skip 1).takeWhile isNameChar
  if name.isEmpty || !endsAnchor cursor.rest then
    .error ⟨"did not find expected alphabetic or numeric character", cursor.mark,
      some (if isAlias then "while scanning an alias" else "while scanning an anchor", start)⟩
  else
    let name := String.ofList name
    .ok (⟨if isAlias then .aliased name else .anchor name, start⟩, cursor)

/-! ## Tags -/

/-- A character that stands for itself in a tag. -/
def isTagChar (bracketed : Bool) (char : Char) : Bool :=
  isNameChar char
    || char ∈ [';', '/', '?', ':', '@', '&', '=', '+', '$', '.', '!', '~', '*', '\'', '(', ')']
    || (bracketed && char ∈ [',', '[', ']'])

/-- How many bytes follow the first byte of a character; nothing if no
character begins with the byte. -/
def bytesAfter? (byte : Nat) : Option Nat :=
  if byte < 0x80 then some 0
  else if byte / 0x20 = 6 then some 1
  else if byte / 0x10 = 14 then some 2
  else if byte / 0x08 = 30 then some 3
  else none

/-- Reads the characters of a tag.  `due` counts the bytes that the character
at the end still lacks, `skipping` the digits of a byte that was read. -/
def readTagChars (bracketed : Bool) (refuse : String → Mark → Error) (due skipping : Nat)
    (done : List UInt8) : List Char → Mark → Except Error (Tag × Cursor)
  | [], mark =>
      if due > 0 then .error (refuse "did not find URI escaped octet" mark)
      else .ok (done.reverse, ⟨[], mark⟩)
  | char :: rest, mark =>
      match skipping with
      | skipping + 1 => readTagChars bracketed refuse due skipping done rest (mark.right 1)
      | 0 =>
        if char = '%' then
          match rest with
          | high :: low :: _ =>
              match Value.hexDigit? high, Value.hexDigit? low with
              | some high, some low =>
                  let byte := high * 16 + low
                  match due with
                  | 0 =>
                      match bytesAfter? byte with
                      | some due =>
                          readTagChars bracketed refuse due 2 (byte.toUInt8 :: done) rest
                            (mark.right 1)
                      | none => .error (refuse "found an incorrect leading UTF-8 octet" mark)
                  | due + 1 =>
                      if byte / 0x40 = 2 then
                        readTagChars bracketed refuse due 2 (byte.toUInt8 :: done) rest
                          (mark.right 1)
                      else .error (refuse "found an incorrect trailing UTF-8 octet" mark)
              | _, _ => .error (refuse "did not find URI escaped octet" mark)
          | _ => .error (refuse "did not find URI escaped octet" mark)
        else if due > 0 then .error (refuse "did not find URI escaped octet" mark)
        else if isTagChar bracketed char then
          readTagChars bracketed refuse 0 0 (char.toNat.toUInt8 :: done) rest (mark.right 1)
        else .ok (done.reverse, ⟨char :: rest, mark⟩)

/-- Reads the end of a tag after some characters of it.  There has to be at
least one character in all. -/
def readTagEnding (bracketed directive : Bool) (start : Mark) (first : List Char)
    (cursor : Cursor) :
    Except Error (Tag × Cursor) := do
  let refuse (problem : String) (mark : Mark) : Error :=
    ⟨problem, mark,
      some (if directive then "while parsing a %TAG directive" else "while parsing a tag", start)⟩
  let before := first.drop 1 |>.map fun char => char.toNat.toUInt8
  let (ending, after) ← readTagChars bracketed refuse 0 0 before.reverse cursor.rest cursor.mark
  if first.isEmpty && ending.isEmpty then throw (refuse "did not find expected tag URI" after.mark)
  return (ending, after)

/-- Reads the characters of a shorthand: an exclamation mark, a name, and if
the name is complete, another exclamation mark. -/
def readHandle (directive : Bool) (start : Mark) (cursor : Cursor) :
    Except Error (List Char × Cursor) :=
  match cursor.rest with
  | '!' :: _ =>
      let (name, cursor) := (cursor.skip 1).takeWhile isNameChar
      if cursor.isAt '!' then .ok ('!' :: name ++ ['!'], cursor.skip 1)
      else if directive && !name.isEmpty then
        .error ⟨"did not find expected '!'", cursor.mark,
          some ("while parsing a tag directive", start)⟩
      else .ok ('!' :: name, cursor)
  | _ =>
      .error ⟨"did not find expected '!'", cursor.mark,
        some (if directive then "while scanning a tag directive" else "while scanning a tag",
          start)⟩

/-- Reads the parts of a tag, from its exclamation mark. -/
def readTagParts (cursor : Cursor) : Except Error (TokenKind × Cursor) := do
  let start := cursor.mark
  match cursor.rest with
  | '!' :: '<' :: _ =>
      let (ending, cursor) ← readTagEnding true false start [] (cursor.skip 2)
      if cursor.isAt '>' then return (.tag "" ending, cursor.skip 1)
      throw ⟨"did not find the expected '>'", cursor.mark, some ("while scanning a tag", start)⟩
  | _ =>
      let (handle, cursor) ← readHandle false start cursor
      if handle.length > 1 && handle.getLast? = some '!' then
        let (ending, cursor) ← readTagEnding false false start [] cursor
        return (.tag (String.ofList handle) ending, cursor)
      else
        let (ending, cursor) ← readTagEnding false false start handle cursor
        if ending.isEmpty then return (.tag "" (Tag.ofString "!"), cursor)
        return (.tag "!" ending, cursor)

/-- Reads a tag, from its exclamation mark. -/
def readTag (flow : Bool) (cursor : Cursor) : Except Error (Token × Cursor) := do
  let (kind, after) ← readTagParts cursor
  if blankAhead after.rest || (flow && after.isAt ',') then return (⟨kind, cursor.mark⟩, after)
  throw ⟨"did not find expected whitespace or line break", after.mark,
    some ("while scanning a tag", cursor.mark)⟩

/-! ## Directives -/

/-- Reads a part of a version number. -/
def readVersionNumber (start : Mark) (cursor : Cursor) : Except Error (Nat × Cursor) :=
  let refuse (problem : String) (mark : Mark) : Except Error (Nat × Cursor) :=
    .error ⟨problem, mark, some ("while scanning a %YAML directive", start)⟩
  let (digits, after) := cursor.takeWhile Char.isDigit
  if digits.isEmpty then refuse "did not find expected version number" cursor.mark
  else if digits.length > 9 then
    refuse "found extremely long version number" (cursor.mark.right 9)
  else .ok (Value.digitsToNat digits, after)

/-- Reads a version number, after the name of its directive. -/
def readVersion (start : Mark) (cursor : Cursor) : Except Error (TokenKind × Cursor) := do
  let (major, cursor) ← readVersionNumber start (cursor.skipWhile isGap)
  if !cursor.isAt '.' then
    throw ⟨"did not find expected digit or '.' character", cursor.mark,
      some ("while scanning a %YAML directive", start)⟩
  let (minor, cursor) ← readVersionNumber start (cursor.skip 1)
  return (.version major minor, cursor)

/-- Reads the definition of a shorthand, after the name of its directive. -/
def readShorthand (start : Mark) (cursor : Cursor) : Except Error (TokenKind × Cursor) := do
  let (handle, cursor) ← readHandle true start (cursor.skipWhile isGap)
  let refuse (problem : String) (mark : Mark) : Error :=
    ⟨problem, mark, some ("while scanning a %TAG directive", start)⟩
  if !(cursor.rest.head?.map isGap).getD false then
    throw (refuse "did not find expected whitespace" cursor.mark)
  let (expansion, cursor) ← readTagEnding true true start [] (cursor.skipWhile isGap)
  if !blankAhead cursor.rest then
    throw (refuse "did not find expected whitespace or line break" cursor.mark)
  return (.tagShorthand (String.ofList handle) expansion, cursor)

/-- Reads a directive and the rest of its line, from the percent sign. -/
def readDirective (cursor : Cursor) : Except Error (Token × Cursor) := do
  let start := cursor.mark
  let refuse (problem : String) (mark : Mark) : Error :=
    ⟨problem, mark, some ("while scanning a directive", start)⟩
  let (name, cursor) := (cursor.skip 1).takeWhile isNameChar
  if name.isEmpty then throw (refuse "could not find expected directive name" cursor.mark)
  if !blankAhead cursor.rest then
    throw (refuse "found unexpected non-alphabetical character" cursor.mark)
  let (kind, cursor) ←
    if name = ['Y', 'A', 'M', 'L'] then readVersion start cursor
    else if name = ['T', 'A', 'G'] then readShorthand start cursor
    else throw (refuse "found unknown directive name" cursor.mark)
  let cursor := cursor.skipComment
  match cursor.skipBreak? with
  | some cursor => return (⟨kind, start⟩, cursor)
  | none => throw (refuse "did not find expected comment or line break" cursor.mark)

end PoolOperator.Yaml
