import PoolOperator.Proofs.Yaml.Tokens

/-!
# Outlines of documents

An outline is a tree of texts, each in a style of its own, that is written in
block style.  The writer gives a value the outline whose styles it chooses; a
document that is written by hand may have another one.

An outline is *legible* if its styles carry their texts and its keys are plain
and short.  Its tokens can be told from the outline alone (`keyKinds`,
`hyphenKinds`), and so can those of a stream of documents (`laterKinds`).
-/

namespace PoolOperator.Yaml

/-- A document as it is written. -/
inductive Outline where
  /-- A text in a style. -/
  | scalar (style : Style) (text : String)
  /-- A sequence. -/
  | sequence (items : List Outline)
  /-- A mapping with plain keys. -/
  | mapping (fields : List (String × Outline))

namespace Outline

/-! ## Writing -/

/-- The text of an outline that takes no lines of its own. -/
def inlineText (indent : Nat) : Outline → List Char
  | .scalar style text => style.written indent text
  | .sequence _ => ['[', ']']
  | .mapping _ => ['\x7b', '\x7d']

mutual

/-- What follows the colon of a key in a mapping at a column. -/
def afterKey (column : Nat) : Outline → List Char
  | .sequence (item :: items) => '\n' :: spaces column ++ itemLines column (item :: items)
  | .mapping (field :: fields) =>
      '\n' :: spaces (column + 2) ++ fieldLines (column + 2) (field :: fields)
  | outline => ' ' :: scalarLine (outline.inlineText (column + 2))

/-- What follows the hyphen of an item in a sequence at a column. -/
def afterHyphen (column : Nat) : Outline → List Char
  | .sequence (item :: items) => ' ' :: itemLines (column + 2) (item :: items)
  | .mapping (field :: fields) => ' ' :: fieldLines (column + 2) (field :: fields)
  | outline => ' ' :: scalarLine (outline.inlineText (column + 2))

/-- The items of a sequence at a column, where the first line begins. -/
def itemLines (column : Nat) : List Outline → List Char
  | [] => []
  | [item] => '-' :: afterHyphen column item
  | item :: items => '-' :: afterHyphen column item ++ spaces column ++ itemLines column items

/-- The members of a mapping at a column, where the first line begins. -/
def fieldLines (column : Nat) : List (String × Outline) → List Char
  | [] => []
  | [(key, outline)] => key.toList ++ ':' :: afterKey column outline
  | (key, outline) :: fields =>
      key.toList ++ ':' :: afterKey column outline ++ spaces column ++ fieldLines column fields

end

/-! ## Legibility -/

/-- Can a key be told from its colon?  It is plain, and on one short line. -/
def isShortKey (key : String) : Bool := Style.plain.carries key && decide (key.toList.length ≤ 1024)

mutual

/-- Do the styles carry their texts, and are the keys short? -/
def isLegible : Outline → Bool
  | .scalar style text => style.carries text
  | .sequence items => areLegible items
  | .mapping fields => fieldsLegible fields

/-- `isLegible` of all items. -/
def areLegible : List Outline → Bool
  | [] => true
  | item :: items => isLegible item && areLegible items

/-- `isLegible` of all members, and `isShortKey` of their keys. -/
def fieldsLegible : List (String × Outline) → Bool
  | [] => true
  | (key, outline) :: fields => isShortKey key && isLegible outline && fieldsLegible fields

end

/-- Does an outline take no lines of its own? -/
def isInline : Outline → Bool
  | .sequence (_ :: _) => false
  | .mapping (_ :: _) => false
  | _ => true

/-! ## Tokens -/

/-- The tokens of an outline that takes no lines of its own. -/
def inlineKinds : Outline → List TokenKind
  | .scalar style text => [.scalar style text]
  | .sequence _ => [.flowSequenceStart, .flowSequenceEnd]
  | .mapping _ => [.flowMappingStart, .flowMappingEnd]

mutual

/-- The tokens of an outline under a key.  A sequence is not indented there, so
that it has no beginning and no end. -/
def keyKinds : Outline → List TokenKind
  | .sequence (item :: items) => itemsKinds (item :: items)
  | .mapping (field :: fields) =>
      .blockMappingStart :: (fieldsKinds (field :: fields) ++ [.blockEnd])
  | outline => outline.inlineKinds

/-- The tokens of an outline behind a hyphen. -/
def hyphenKinds : Outline → List TokenKind
  | .sequence (item :: items) => .blockSequenceStart :: (itemsKinds (item :: items) ++ [.blockEnd])
  | .mapping (field :: fields) =>
      .blockMappingStart :: (fieldsKinds (field :: fields) ++ [.blockEnd])
  | outline => outline.inlineKinds

/-- The tokens of the items of a sequence. -/
def itemsKinds : List Outline → List TokenKind
  | [] => []
  | item :: items => .blockEntry :: (hyphenKinds item ++ itemsKinds items)

/-- The tokens of the members of a mapping. -/
def fieldsKinds : List (String × Outline) → List TokenKind
  | [] => []
  | (key, outline) :: fields =>
      .key :: .scalar .plain key :: .value :: (keyKinds outline ++ fieldsKinds fields)

end

/-! ## Documents -/

/-- Is this a document that can be read back?  It is a mapping with members. -/
def isDocument (fields : List (String × Outline)) : Bool := !fields.isEmpty && fieldsLegible fields

/-- The documents after the first one, with three hyphens before each. -/
def laterLines : List (List (String × Outline)) → List Char
  | [] => []
  | fields :: documents =>
      '-' :: '-' :: '-' :: '\n' :: (fieldLines 0 fields ++ laterLines documents)

/-- The tokens of the documents after the first one, up to the end. -/
def laterKinds : List (List (String × Outline)) → List TokenKind
  | [] => [.streamEnd]
  | fields :: documents =>
      .documentStart :: .blockMappingStart ::
        (fieldsKinds fields ++ .blockEnd :: laterKinds documents)

end Outline

end PoolOperator.Yaml
