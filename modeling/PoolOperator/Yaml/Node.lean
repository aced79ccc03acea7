import PoolOperator.Yaml.Token.Stream

/-!
# Documents

A YAML text is a stream of documents, and a document is a tree of nodes.
`documents` builds the trees from the tokens.  Where content may be left out,
an empty plain scalar stands in its place.

A node with an anchor has the number of the anchor's name, counted by first
use in the document.  An alias refers to a number, and stands for the last node
that has it (`Document.anchored?`).

The functions follow the grammar.  They consume the tokens from the front, and
their first argument bounds the number of steps.
-/

namespace PoolOperator.Yaml

/-- What any node has besides its content. -/
structure NodeHead where
  /-- Where the node begins. -/
  mark : Mark
  /-- The tag. -/
  tag : Option Tag
  /-- The number of the anchor. -/
  anchor : Option Nat
  deriving DecidableEq, Repr, Inhabited

/-- A node of a document. -/
inductive Node where
  /-- A text. -/
  | scalar (head : NodeHead) (style : Style) (text : String)
  /-- A list of nodes. -/
  | sequence (head : NodeHead) (items : List Node)
  /-- A list of keys and values. -/
  | mapping (head : NodeHead) (pairs : List (Node × Node))
  /-- A reference to a node with an anchor. -/
  | aliased (mark : Mark) (number : Nat)
  deriving Inhabited, Repr

namespace Node

/-- Where a node begins. -/
def mark : Node → Mark
  | .scalar head _ _ => head.mark
  | .sequence head _ => head.mark
  | .mapping head _ => head.mark
  | .aliased mark _ => mark

/-- The number of the anchor of a node. -/
def anchor : Node → Option Nat
  | .scalar head _ _ => head.anchor
  | .sequence head _ => head.anchor
  | .mapping head _ => head.anchor
  | .aliased _ _ => none

/-- The node that stands for missing content. -/
def missing (mark : Mark) : Node := .scalar ⟨mark, none, none⟩ .plain ""

mutual

/-- The number of scalars, aliases, and beginnings and ends of collections. -/
def events : Node → Nat
  | .scalar _ _ _ => 1
  | .sequence _ items => eventsItems items + 2
  | .mapping _ pairs => eventsPairs pairs + 2
  | .aliased _ _ => 1

/-- `events` of some items. -/
def eventsItems : List Node → Nat
  | [] => 0
  | item :: items => events item + eventsItems items

/-- `events` of some keys and values. -/
def eventsPairs : List (Node × Node) → Nat
  | [] => 0
  | (key, value) :: pairs => events key + events value + eventsPairs pairs

end

mutual

/-- The last node with an anchor of a number, in the order of the text. -/
def anchored? (number : Nat) (node : Node) : Option Node :=
  let inside := match node with
    | .scalar _ _ _ => none
    | .sequence _ items => anchoredItems? number items
    | .mapping _ pairs => anchoredPairs? number pairs
    | .aliased _ _ => none
  if inside.isNone && node.anchor = some number then some node else inside

/-- `anchored?` in some items. -/
def anchoredItems? (number : Nat) : List Node → Option Node
  | [] => none
  | item :: items => (anchoredItems? number items).or (anchored? number item)

/-- `anchored?` in some keys and values. -/
def anchoredPairs? (number : Nat) : List (Node × Node) → Option Node
  | [] => none
  | (key, value) :: pairs =>
      (anchoredPairs? number pairs).or ((anchored? number value).or (anchored? number key))

end

end Node

/-- A document.  It has no node if the text has no documents at all. -/
structure Document where
  /-- The node. -/
  root : Option Node
  deriving Inhabited, Repr

/-- The number of scalars, aliases, and beginnings and ends of collections. -/
def Document.events (document : Document) : Nat :=
  match document.root with
  | some root => root.events
  | none => 1

/-- The node that an alias refers to. -/
def Document.anchored? (document : Document) (number : Nat) : Option Node :=
  document.root.bind fun root => root.anchored? number

/-! ## The state -/

/-- The state of building documents from tokens. -/
structure Builder where
  /-- The tokens that are left. -/
  tokens : List Token
  /-- The error after the last token. -/
  failure : Option Error
  /-- The shorthands for tags. -/
  shorthands : List (String × Tag) := []
  /-- The names of the anchors of this document and their numbers. -/
  anchors : List (String × Nat) := []
  deriving Inhabited, Repr

/-- A step of building documents. -/
abbrev Build (α : Type) : Type := StateT Builder (Except Error) α

namespace Build

/-- The next token. -/
def peek : Build Token := do
  let builder ← get
  match builder.tokens with
  | token :: _ => return token
  | [] => throw (builder.failure.getD ⟨"unexpected end of tokens", .start, none⟩)

/-- Consumes a token. -/
def skip : Build Unit := modify fun builder => { builder with tokens := builder.tokens.drop 1 }

/-- Does a node begin here, if one of some tokens means that there is none? -/
def hasNode (ends : List TokenKind) : Build Bool := return !((← peek).kind ∈ ends)

/-- An error at a token, in a construct that begins at a place. -/
def fail {α : Type} (problem : String) (token : Token) (context : String) (mark : Mark) : Build α :=
  throw ⟨problem, token.mark, some (context, mark)⟩

/-! ## Properties -/

/-- The number of an anchor with a name.  It is new in any case, except that it
may have been taken after a name was used twice. -/
def nameAnchor (name : String) : Build Nat := do
  let builder ← get
  let number := builder.anchors.length
  let others := builder.anchors.filter fun anchor => anchor.1 ≠ name
  set { builder with anchors := (name, number) :: others }
  return number

/-- The tag with a shorthand before it. -/
def fullTag (start : Mark) (handle : String) (ending : Tag) (mark : Mark) : Build Tag := do
  if handle = "" then return ending
  match (← get).shorthands.find? fun shorthand => shorthand.1 = handle with
  | some (_, expansion) => return expansion ++ ending
  | none => throw ⟨"found undefined tag handle", mark, some ("while parsing a node", start)⟩

/-- The anchor and the tag before the content of a node, in any order. -/
structure Properties where
  /-- The name of the anchor. -/
  anchor : Option String := none
  /-- The parts of the tag, and where it begins. -/
  tag : Option (String × Tag × Mark) := none

/-- Reads the properties of a node. -/
def properties : Build Properties := do
  match (← peek).kind with
  | .anchor name =>
      skip
      let token ← peek
      match token.kind with
      | .tag handle ending =>
          skip
          return { anchor := some name, tag := some (handle, ending, token.mark) }
      | _ => return { anchor := some name }
  | .tag handle ending =>
      let mark := (← peek).mark
      skip
      match (← peek).kind with
      | .anchor name =>
          skip
          return { anchor := some name, tag := some (handle, ending, mark) }
      | _ => return { tag := some (handle, ending, mark) }
  | _ => return {}

/-! ## Nodes -/

/-- The tag that says nothing.  A scalar does not keep it. -/
def plainTag : Tag := Tag.ofString "!"

mutual

/-- A node.  `block` tells whether it may be a block collection, and
`indentless` whether it may be a sequence that is not indented. -/
def node : Nat → (block indentless : Bool) → Build Node
  | 0, _, _ => throw ⟨"document too large", .start, none⟩
  | fuel + 1, block, indentless => do
      let first ← peek
      match first.kind with
      | .aliased name =>
          skip
          match (← get).anchors.find? fun anchor => anchor.1 = name with
          | some (_, number) => return .aliased first.mark number
          | none => throw ⟨"unknown anchor", first.mark, none⟩
      | _ =>
          let properties ← properties
          let token ← peek
          let tag ← properties.tag.mapM fun (handle, ending, mark) =>
            fullTag first.mark handle ending mark
          let head : Build NodeHead := do
            return ⟨first.mark, tag, ← properties.anchor.mapM nameAnchor⟩
          match token.kind with
          | .scalar style text =>
              let head ← head
              skip
              return .scalar { head with tag := tag.filter (· ≠ plainTag) } style text
          | .flowSequenceStart =>
              let head ← head
              skip
              return .sequence head (← flowItems fuel token.mark true)
          | .flowMappingStart =>
              let head ← head
              skip
              return .mapping head (← flowPairs fuel token.mark true)
          | kind =>
              if kind = .blockEntry && indentless then
                return .sequence (← head) (← indentlessItems fuel)
              else if kind = .blockSequenceStart && block then
                let head ← head
                skip
                return .sequence head (← blockItems fuel token.mark)
              else if kind = .blockMappingStart && block then
                let head ← head
                skip
                return .mapping head (← blockPairs fuel token.mark)
              else if properties.anchor.isSome || properties.tag.isSome then
                return .scalar (← head) .plain ""
              else
                fail "did not find expected node content" token
                  (if block then "while parsing a block node" else "while parsing a flow node")
                  first.mark

/-- The items of a block sequence. -/
def blockItems : Nat → Mark → Build (List Node)
  | 0, _ => throw ⟨"document too large", .start, none⟩
  | fuel + 1, start => do
      let token ← peek
      match token.kind with
      | .blockEntry =>
          skip
          let item ←
            if ← hasNode [.blockEntry, .blockEnd] then node fuel true false
            else pure (.missing (token.mark.right 1))
          return item :: (← blockItems fuel start)
      | .blockEnd =>
          skip
          return []
      | _ =>
          fail "did not find expected '-' indicator" token "while parsing a block collection" start

/-- The items of a block sequence that is not indented. -/
def indentlessItems : Nat → Build (List Node)
  | 0 => throw ⟨"document too large", .start, none⟩
  | fuel + 1 => do
      let token ← peek
      match token.kind with
      | .blockEntry =>
          skip
          let item ←
            if ← hasNode [.blockEntry, .key, .value, .blockEnd] then node fuel true false
            else pure (.missing (token.mark.right 1))
          return item :: (← indentlessItems fuel)
      | _ => return []

/-- The keys and values of a block mapping. -/
def blockPairs : Nat → Mark → Build (List (Node × Node))
  | 0, _ => throw ⟨"document too large", .start, none⟩
  | fuel + 1, start => do
      let token ← peek
      match token.kind with
      | .key =>
          skip
          let key ←
            if ← hasNode [.key, .value, .blockEnd] then node fuel true true
            else pure (.missing (token.mark.right 1))
          let value ← blockValue fuel
          return (key, value) :: (← blockPairs fuel start)
      | .blockEnd =>
          skip
          return []
      | _ => fail "did not find expected key" token "while parsing a block mapping" start

/-- The value of a key in a block mapping. -/
def blockValue : Nat → Build Node
  | 0 => throw ⟨"document too large", .start, none⟩
  | fuel + 1 => do
      let token ← peek
      match token.kind with
      | .value =>
          skip
          if ← hasNode [.key, .value, .blockEnd] then node fuel true true
          else return .missing (token.mark.right 1)
      | _ => return .missing token.mark

/-- The items of a flow sequence. -/
def flowItems : Nat → Mark → (first : Bool) → Build (List Node)
  | 0, _, _ => throw ⟨"document too large", .start, none⟩
  | fuel + 1, start, first => do
      if (← peek).kind = .flowSequenceEnd then
        skip
        return []
      if !first then
        if (← peek).kind = .flowEntry then skip
        else fail "did not find expected ',' or ']'" (← peek) "while parsing a flow sequence" start
      let token ← peek
      match token.kind with
      | .flowSequenceEnd =>
          skip
          return []
      | .key =>
          skip
          let pair ← flowPair fuel
          let item : Node := .mapping ⟨token.mark, none, none⟩ [pair]
          return item :: (← flowItems fuel start false)
      | _ =>
          let item ← node fuel false false
          return item :: (← flowItems fuel start false)

/-- The only key and value of a mapping without braces in a flow sequence.
Without a key, the token in its place is skipped. -/
def flowPair : Nat → Build (Node × Node)
  | 0 => throw ⟨"document too large", .start, none⟩
  | fuel + 1 => do
      let key ←
        if ← hasNode [.value, .flowEntry, .flowSequenceEnd] then node fuel false false
        else do
          let token ← peek
          skip
          pure (.missing (token.mark.right 1))
      if (← peek).kind = .value then
        skip
        if ← hasNode [.flowEntry, .flowSequenceEnd] then
          return (key, ← node fuel false false)
      return (key, .missing (← peek).mark)

/-- The keys and values of a flow mapping. -/
def flowPairs : Nat → Mark → (first : Bool) → Build (List (Node × Node))
  | 0, _, _ => throw ⟨"document too large", .start, none⟩
  | fuel + 1, start, first => do
      if (← peek).kind = .flowMappingEnd then
        skip
        return []
      if !first then
        if (← peek).kind = .flowEntry then skip
        else
          fail "did not find expected ',' or '\x7d'" (← peek) "while parsing a flow mapping" start
      match (← peek).kind with
      | .flowMappingEnd =>
          skip
          return []
      | .key =>
          skip
          let key ←
            if ← hasNode [.value, .flowEntry, .flowMappingEnd] then node fuel false false
            else pure (.missing (← peek).mark)
          let value ← flowValue fuel
          return (key, value) :: (← flowPairs fuel start false)
      | _ =>
          let key ← node fuel false false
          let value : Node := .missing (← peek).mark
          return (key, value) :: (← flowPairs fuel start false)

/-- The value of a key in a flow mapping. -/
def flowValue : Nat → Build Node
  | 0 => throw ⟨"document too large", .start, none⟩
  | fuel + 1 => do
      if (← peek).kind = .value then
        skip
        if ← hasNode [.flowEntry, .flowMappingEnd] then
          return ← node fuel false false
      return .missing (← peek).mark

end

/-! ## Documents -/

/-- The shorthands that any document has. -/
def standardShorthands : List (String × Tag) :=
  [("!", Tag.ofString "!"), ("!!", Tag.ofString "tag:yaml.org,2002:")]

/-- Reads the directives before a document. -/
def directives : Nat → (version : Bool) → Build Unit
  | 0, _ => return ()
  | fuel + 1, version => do
      let token ← peek
      match token.kind with
      | .version major minor =>
          if version then throw ⟨"found duplicate %YAML directive", token.mark, none⟩
          if major ≠ 1 ∨ (minor ≠ 1 ∧ minor ≠ 2) then
            throw ⟨"found incompatible YAML document", token.mark, none⟩
          skip
          directives fuel true
      | .tagShorthand handle expansion =>
          let builder ← get
          if builder.shorthands.any fun shorthand => shorthand.1 = handle then
            throw ⟨"found duplicate %TAG directive", token.mark, none⟩
          set { builder with shorthands := builder.shorthands ++ [(handle, expansion)] }
          skip
          directives fuel version
      | _ => modify fun builder =>
          { builder with
            shorthands := builder.shorthands ++ standardShorthands.filter fun shorthand =>
              !builder.shorthands.any fun known => known.1 = shorthand.1 }

/-- Skips markers that end a document. -/
def skipEnds : Nat → Build Unit
  | 0 => return ()
  | fuel + 1 => do
      if (← peek).kind = .documentEnd then
        skip
        skipEnds fuel

/-- The next document, with its beginning and its end; nothing at the end of
the text.  Only the first document of a text may go without three hyphens. -/
def document (fuel : Nat) (first : Bool) : Build (Option Document) := do
  modify fun builder => { builder with shorthands := [], anchors := [] }
  if !first then skipEnds fuel
  let token ← peek
  if token.kind = .streamEnd then return none
  directives fuel false
  let after ← peek
  let root ←
    if after.kind = .documentStart then
      skip
      let next ← peek
      match next.kind with
      | .version _ _ | .tagShorthand _ _ | .documentStart | .documentEnd | .streamEnd =>
          pure (Node.missing next.mark)
      | _ => node fuel true false
    else if first && after = token then node fuel true false
    else throw ⟨"did not find expected <document start>", after.mark, none⟩
  if (← peek).kind = .documentEnd then skip
  return some ⟨some root⟩

end Build

/-- The documents from some tokens on, and the error that ends them. -/
def documentsFrom (fuel : Nat) : Nat → Bool → Builder → List Document × Option Error
  | 0, _, _ => ([], none)
  | count + 1, first, builder =>
      match (Build.document fuel first).run builder with
      | .error error => ([], some error)
      | .ok (none, _) => if first then ([⟨none⟩], none) else ([], none)
      | .ok (some document, builder) =>
          let (documents, error?) := documentsFrom fuel count false builder
          (document :: documents, error?)

/-- The documents of a text, and the error that ends them.  A text without a
document counts as one that has no node. -/
def documents (text : String) : List Document × Option Error :=
  let (tokens, failure) := tokens text
  documentsFrom (4 * tokens.length + 4) (tokens.length + 2) true { tokens, failure }

end PoolOperator.Yaml
