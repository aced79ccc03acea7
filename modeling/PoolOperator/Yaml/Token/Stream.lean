import PoolOperator.Yaml.Portion
import PoolOperator.Yaml.Token.Name
import PoolOperator.Yaml.Token.Quoted

/-!
# The tokens of a text

`tokens` cuts a text into tokens.  Most tokens can be told from the characters
at hand.  The exception is a key without a question mark, which shows only at
the colon behind it.  So the places where such a key may begin are kept, one
for each open collection, and a token that may be the beginning of a key is
held back until that is known.  A key ends on its line, within 1024 characters.

The result is a list of tokens, and the error that ends it, if there is one.
The tokens before an error count, because they may contain an earlier error, or
whole documents.
-/

namespace PoolOperator.Yaml

/-- A place where a key may begin. -/
structure KeyPlace where
  /-- Does a key have to begin here? -/
  required : Bool
  /-- The number of the token at the place. -/
  number : Nat
  /-- The place. -/
  mark : Mark
  deriving DecidableEq, Repr, Inhabited

/-- The state of cutting a text into tokens. -/
structure Scanner where
  /-- The text that is left. -/
  cursor : Cursor
  /-- The number of open flow collections. -/
  flow : Nat := 0
  /-- The column of the innermost block collection, `-1` outside of any. -/
  indent : Int := -1
  /-- The columns of the collections around it, inside out. -/
  indents : List Int := []
  /-- May a key begin here? -/
  keyAllowed : Bool := true
  /-- Where a key of each open collection may begin, inside out. -/
  keys : List (Option KeyPlace) := [none]
  /-- The tokens that are held back. -/
  queue : List Token := []
  /-- The number of tokens that were handed out. -/
  taken : Nat := 0
  /-- Was the end of the text reached? -/
  ended : Bool := false
  deriving Repr, Inhabited

namespace Scanner

/-! ## The state -/

/-- The scanner with a token at the end of its queue. -/
def push (scanner : Scanner) (kind : TokenKind) : Scanner :=
  { scanner with queue := scanner.queue ++ [⟨kind, scanner.cursor.mark⟩] }

/-- The scanner with a token in its queue, before the one of a number. -/
def insert (scanner : Scanner) (number : Nat) (token : Token) : Scanner :=
  let place := number - scanner.taken
  { scanner with queue := scanner.queue.take place ++ token :: scanner.queue.drop place }

/-- An error at the current place. -/
def fail {α : Type} (scanner : Scanner) (problem : String) (context : Option (String × Mark)) :
    Except Error α :=
  .error ⟨problem, scanner.cursor.mark, context⟩

/-- The error of a key without its colon. -/
def failKey {α : Type} (scanner : Scanner) (key : KeyPlace) : Except Error α :=
  scanner.fail "could not find expected ':'" (some ("while scanning a simple key", key.mark))

/-- Gives up the place of the innermost key. -/
def dropKey (scanner : Scanner) : Except Error Scanner :=
  match scanner.keys with
  | some key :: keys =>
      if key.required then scanner.failKey key else .ok { scanner with keys := none :: keys }
  | _ => .ok scanner

/-- Notes that a key may begin here, if it may. -/
def saveKey (scanner : Scanner) : Except Error Scanner := do
  if !scanner.keyAllowed then return scanner
  let scanner ← scanner.dropKey
  let mark := scanner.cursor.mark
  let key : KeyPlace :=
    { required := scanner.flow = 0 && scanner.indent = mark.column
      number := scanner.taken + scanner.queue.length
      mark }
  return { scanner with keys := some key :: scanner.keys.drop 1 }

/-- Is a place too far back for its key to end here? -/
def isStale (scanner : Scanner) (key : KeyPlace) : Bool :=
  key.mark.line < scanner.cursor.mark.line || key.mark.column + 1024 < scanner.cursor.mark.column

/-- Gives up the places that are too far back. -/
def dropStaleKeys (scanner : Scanner) : Except Error Scanner :=
  match scanner.keys.reduceOption.find? fun key => key.required && scanner.isStale key with
  | some key => scanner.failKey key
  | none => .ok { scanner with keys := scanner.keys.map (·.filter fun key => !scanner.isStale key) }

/-- Opens a block collection at a column, unless one is open there.  Its token
goes to the end of the queue, or before the token of a number. -/
def openBlock (scanner : Scanner) (number : Option Nat) (token : Token) : Scanner :=
  if scanner.flow > 0 || scanner.indent ≥ token.mark.column then scanner
  else
    { scanner.insert (number.getD (scanner.taken + scanner.queue.length)) token with
      indent := token.mark.column
      indents := scanner.indent :: scanner.indents }

/-- Closes the block collections that are indented further than a column. -/
def closeBlocks (scanner : Scanner) (column : Int) : Scanner :=
  if scanner.flow > 0 || scanner.indent ≤ column then scanner
  else
    let closed := scanner.indents.takeWhile (· > column)
    let ends := List.replicate (closed.length + 1) (Token.mk .blockEnd scanner.cursor.mark)
    match scanner.indents.dropWhile (· > column) with
    | indent :: indents => { scanner with indent, indents, queue := scanner.queue ++ ends }
    | [] => { scanner with indent := -1, indents := [], queue := scanner.queue ++ ends }

/-! ## Blanks -/

/-- Skips blanks, comments and line breaks.  A tab counts as a blank unless a
key may begin there. -/
def skipBlanks (flow comment keyAllowed : Bool) : List Char → Mark → Cursor × Bool
  | [], mark => (⟨[], mark⟩, keyAllowed)
  | char :: rest, mark =>
      if isBreak char then skipBlanks flow false (keyAllowed || !flow) rest (mark.past char)
      else if comment || char = ' ' || (char = '\t' && (flow || !keyAllowed))
          || (char = '\ufeff' && mark.column = 0) then
        skipBlanks flow comment keyAllowed rest (mark.right 1)
      else if char = '#' then skipBlanks flow true keyAllowed rest (mark.right 1)
      else (⟨char :: rest, mark⟩, keyAllowed)

/-- Goes on to the next token. -/
def toToken (scanner : Scanner) : Scanner :=
  let (cursor, keyAllowed) := skipBlanks (scanner.flow > 0) false scanner.keyAllowed
    scanner.cursor.rest scanner.cursor.mark
  { scanner with cursor, keyAllowed }

/-! ## Tokens by kind -/

/-- Takes a token of some characters that are as they should be. -/
def take (scanner : Scanner) (kind : TokenKind) (length : Nat) : Scanner :=
  { scanner.push kind with cursor := scanner.cursor.skip length }

/-- The end of the text, which also ends the last line. -/
def takeEnd (scanner : Scanner) : Except Error Scanner := do
  let mark := scanner.cursor.mark
  let mark := if mark.column = 0 then mark else ⟨mark.line + 1, 0⟩
  let scanner ← ({ scanner with cursor := ⟨[], mark⟩ }.closeBlocks (-1)).dropKey
  return { scanner.push .streamEnd with keyAllowed := false, ended := true }

/-- A directive. -/
def takeDirective (scanner : Scanner) : Except Error Scanner := do
  let scanner ← (scanner.closeBlocks (-1)).dropKey
  let (token, cursor) ← readDirective scanner.cursor
  return { scanner with keyAllowed := false, cursor, queue := scanner.queue ++ [token] }

/-- A document marker. -/
def takeDocumentMark (scanner : Scanner) (kind : TokenKind) : Except Error Scanner := do
  let scanner ← (scanner.closeBlocks (-1)).dropKey
  return { scanner.take kind 3 with keyAllowed := false }

/-- The beginning of a flow collection, which may be a key. -/
def openFlow (scanner : Scanner) (kind : TokenKind) : Except Error Scanner := do
  let scanner ← scanner.saveKey
  return { scanner.take kind 1 with
    keyAllowed := true, flow := scanner.flow + 1, keys := none :: scanner.keys }

/-- The end of a flow collection. -/
def closeFlow (scanner : Scanner) (kind : TokenKind) : Except Error Scanner := do
  let scanner ← scanner.dropKey
  let scanner := { scanner.take kind 1 with keyAllowed := false }
  if scanner.flow = 0 then return scanner
  return { scanner with flow := scanner.flow - 1, keys := scanner.keys.drop 1 }

/-- A comma. -/
def takeFlowEntry (scanner : Scanner) : Except Error Scanner := do
  let scanner ← scanner.dropKey
  return { scanner.take .flowEntry 1 with keyAllowed := true }

/-- A hyphen before an item. -/
def takeBlockEntry (scanner : Scanner) : Except Error Scanner := do
  if scanner.flow = 0 && !scanner.keyAllowed then
    scanner.fail "block sequence entries are not allowed in this context" none
  else
    let scanner ← (scanner.openBlock none ⟨.blockSequenceStart, scanner.cursor.mark⟩).dropKey
    return { scanner.take .blockEntry 1 with keyAllowed := true }

/-- A question mark before a key. -/
def takeKey (scanner : Scanner) : Except Error Scanner := do
  if scanner.flow = 0 && !scanner.keyAllowed then
    scanner.fail "mapping keys are not allowed in this context" none
  else
    let scanner ← (scanner.openBlock none ⟨.blockMappingStart, scanner.cursor.mark⟩).dropKey
    return { scanner.take .key 1 with keyAllowed := scanner.flow = 0 }

/-- A colon before a value.  It may turn what stands before it into a key. -/
def takeValue (scanner : Scanner) : Except Error Scanner :=
  match scanner.keys with
  | some key :: keys =>
      let scanner := scanner.insert key.number ⟨.key, key.mark⟩
      let scanner := scanner.openBlock (some key.number) ⟨.blockMappingStart, key.mark⟩
      .ok { scanner.take .value 1 with keys := none :: keys, keyAllowed := false }
  | _ =>
      if scanner.flow = 0 && !scanner.keyAllowed then
        scanner.fail "mapping values are not allowed in this context" none
      else
        let scanner := scanner.openBlock none ⟨.blockMappingStart, scanner.cursor.mark⟩
        .ok { scanner.take .value 1 with keyAllowed := scanner.flow = 0 }

/-- A property of a node, which may be the beginning of a key. -/
def takeProperty (scanner : Scanner) (read : Cursor → Except Error (Token × Cursor)) :
    Except Error Scanner := do
  let scanner ← scanner.saveKey
  let (token, cursor) ← read scanner.cursor
  return { scanner with keyAllowed := false, cursor, queue := scanner.queue ++ [token] }

/-- A block scalar. -/
def takeBlockScalar (scanner : Scanner) (style : Style) : Except Error Scanner := do
  let scanner ← scanner.dropKey
  let start := scanner.cursor.mark
  let (text, cursor) ← readBlock (style = .folded) scanner.indent start (scanner.cursor.skip 1)
  return { scanner.push (.scalar style text) with keyAllowed := true, cursor }

/-- A scalar in quotes. -/
def takeQuoted (scanner : Scanner) (style : Style) : Except Error Scanner := do
  let scanner ← scanner.saveKey
  let start := scanner.cursor.mark
  let after := scanner.cursor.skip 1
  let (text, cursor) ←
    if style = .singleQuoted then readSingleQuoted start [] .empty after.rest after.mark
    else readDoubleQuoted start 0 [] .empty after.rest after.mark
  return { scanner.push (.scalar style text) with keyAllowed := false, cursor }

/-- A plain scalar. -/
def takePlain (scanner : Scanner) : Except Error Scanner := do
  let scanner ← scanner.saveKey
  let start := scanner.cursor.mark
  let scalar ← readPlain (scanner.flow > 0) (scanner.indent + 1) start [] .empty
    scanner.cursor.rest start
  return { scanner.push (.scalar .plain scalar.text) with
    keyAllowed := scalar.broken, cursor := scalar.after }

/-- May a plain scalar begin with a character, whatever follows? -/
def startsPlain (char : Char) : Bool :=
  !(isGap char || isBreak char
    || char ∈ ['-', '?', ':', ',', '[', ']', '\x7b', '\x7d', '#', '&', '*', '!', '|', '>', '\'',
      '\x22', '%', '@', '\x60'])

/-- Takes the token that begins here. -/
def takeToken (scanner : Scanner) : Except Error Scanner :=
  let flow : Bool := scanner.flow > 0
  let atLineStart : Bool := scanner.cursor.mark.column = 0
  match scanner.cursor.rest with
  | [] => scanner.takeEnd
  | char :: rest =>
      if atLineStart && char = '%' then scanner.takeDirective
      else if atLineStart && documentMarkAhead (char :: rest) then
        scanner.takeDocumentMark (if char = '-' then .documentStart else .documentEnd)
      else if char = '[' then scanner.openFlow .flowSequenceStart
      else if char = '\x7b' then scanner.openFlow .flowMappingStart
      else if char = ']' then scanner.closeFlow .flowSequenceEnd
      else if char = '\x7d' then scanner.closeFlow .flowMappingEnd
      else if char = ',' then scanner.takeFlowEntry
      else if char = '-' && blankAhead rest then scanner.takeBlockEntry
      else if char = '?' && (flow || blankAhead rest) then scanner.takeKey
      else if char = ':' && (flow || blankAhead rest) then scanner.takeValue
      else if char = '*' then scanner.takeProperty (readAnchor true)
      else if char = '&' then scanner.takeProperty (readAnchor false)
      else if char = '!' then scanner.takeProperty (readTag flow)
      else if char = '|' && !flow then scanner.takeBlockScalar .literal
      else if char = '>' && !flow then scanner.takeBlockScalar .folded
      else if char = '\'' then scanner.takeQuoted .singleQuoted
      else if char = '\x22' then scanner.takeQuoted .doubleQuoted
      else if startsPlain char || char = '-' || (!flow && (char = '?' || char = ':')) then
        scanner.takePlain
      else
        scanner.fail "found character that cannot start any token"
          (some ("while scanning for the next token", scanner.cursor.mark))

/-- Goes on to the next token and takes it.  From where it begins, four
characters are looked at, and one from where it ends. -/
def advance (barrier? : Option Barrier) (scanner : Scanner) : Except Error Scanner := do
  let scanner := scanner.toToken
  Barrier.lookAhead barrier? 1 scanner.cursor
  let scanner ← scanner.dropStaleKeys
  let scanner := scanner.closeBlocks scanner.cursor.mark.column
  Barrier.lookAhead barrier? 4 scanner.cursor
  let scanner ← scanner.takeToken.mapError (Barrier.first barrier?)
  Barrier.lookAhead barrier? 1 scanner.cursor
  return scanner

/-! ## All tokens -/

/-- May the first token of the queue be the beginning of a key? -/
def isHeld (scanner : Scanner) : Bool :=
  scanner.keys.any fun key => key.any fun key => key.number = scanner.taken

/-- Hands out the tokens at the front of the queue that cannot be the beginning
of a key. -/
def handOut (scanner : Scanner) : List Token → List Token × Scanner
  | [] => ([], { scanner with queue := [] })
  | token :: queue =>
      if scanner.isHeld then ([], { scanner with queue := token :: queue })
      else
        let (tokens, after) := handOut { scanner with taken := scanner.taken + 1 } queue
        (token :: tokens, after)

/-- The tokens that are left, up to a barrier if there is one.  The first number
bounds the number of steps; one for each character and one more is enough. -/
def run (barrier? : Option Barrier) : Nat → Scanner → List Token × Option Error
  | 0, _ => ([], none)
  | fuel + 1, scanner =>
      if scanner.ended then (scanner.queue, none)
      else
        match scanner.advance barrier? with
        | .error error => ([], some error)
        | .ok scanner =>
            match scanner.dropStaleKeys with
            | .error error => ([], some error)
            | .ok scanner =>
                let (tokens, scanner) := scanner.handOut scanner.queue
                let (others, error?) := run barrier? fuel scanner
                (tokens ++ others, error?)

end Scanner

/-- The tokens of a text up to its first error. -/
def tokens (text : String) : List Token × Option Error :=
  let chars := unifyBreaks text.toList
  Scanner.run (Barrier.of? text.toList) (chars.length + 2) { cursor := ⟨chars, .start⟩ }

end PoolOperator.Yaml
