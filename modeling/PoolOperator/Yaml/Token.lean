import PoolOperator.Yaml.Mark

/-!
# Tokens of YAML

A YAML text is first cut into tokens.  Besides what is written, there are
tokens for the beginning and the end of the block collections, which are only
indicated by indentation.
-/

namespace PoolOperator.Yaml

/-- How a scalar is written. -/
inductive Style where
  /-- As it is. -/
  | plain
  /-- In single quotes. -/
  | singleQuoted
  /-- In double quotes. -/
  | doubleQuoted
  /-- As a block that keeps its line breaks. -/
  | literal
  /-- As a block whose lines are joined. -/
  | folded
  deriving DecidableEq, Repr, Inhabited

/-- A tag, which says what a node is.  It is a sequence of bytes. -/
abbrev Tag := List UInt8

/-- The bytes of a text. -/
def Tag.ofString (text : String) : Tag := text.toUTF8.toList

/-- What a token is. -/
inductive TokenKind where
  /-- The end of the text. -/
  | streamEnd
  /-- The directive that names a version of YAML. -/
  | version (major minor : Nat)
  /-- The directive that defines a shorthand for tags. -/
  | tagShorthand (handle : String) (expansion : Tag)
  /-- Three hyphens. -/
  | documentStart
  /-- Three points. -/
  | documentEnd
  /-- The beginning of a block sequence. -/
  | blockSequenceStart
  /-- The beginning of a block mapping. -/
  | blockMappingStart
  /-- The end of a block collection. -/
  | blockEnd
  /-- An opening bracket. -/
  | flowSequenceStart
  /-- A closing bracket. -/
  | flowSequenceEnd
  /-- An opening brace. -/
  | flowMappingStart
  /-- A closing brace. -/
  | flowMappingEnd
  /-- A hyphen. -/
  | blockEntry
  /-- A comma. -/
  | flowEntry
  /-- The beginning of a key. -/
  | key
  /-- A colon. -/
  | value
  /-- A reference to a node. -/
  | aliased (name : String)
  /-- A name for a node. -/
  | anchor (name : String)
  /-- A tag, with the shorthand before it. -/
  | tag (handle : String) (ending : Tag)
  /-- A scalar. -/
  | scalar (style : Style) (text : String)
  deriving DecidableEq, Repr, Inhabited

/-- A token and where it begins. -/
structure Token where
  /-- What the token is. -/
  kind : TokenKind
  /-- Where it begins. -/
  mark : Mark
  deriving DecidableEq, Repr, Inhabited

end PoolOperator.Yaml
