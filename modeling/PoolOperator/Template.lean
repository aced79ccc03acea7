import PoolOperator.Fields
import PoolOperator.Text.CharClass

/-!
# Templates

A template is a text with placeholders: two opening braces, a point, a key, and
two closing braces, with blanks allowed inside the braces.  The key is a word.
Everything else stands for itself, also braces that belong to no placeholder.

`pieces` cuts a template into characters and keys, and `fill` puts the values
in the place of the keys.  A value is not looked at, so a placeholder in a
value stays.
-/

namespace PoolOperator

/-- The values of the keys. -/
abbrev TemplateValues := Fields String

namespace Template

/-- A part of a template. -/
inductive Piece where
  /-- A character that stands for itself. -/
  | plain (char : Char)
  /-- A placeholder with its key. -/
  | placeholder (key : String)
  deriving DecidableEq, Repr, Inhabited

/-- The key of the placeholder at the beginning of a text, and the rest of the
text. -/
def placeholder? : List Char → Option (List Char × List Char)
  | '\x7b' :: '\x7b' :: rest =>
      match rest.dropWhile Text.isBlank with
      | '.' :: rest =>
          let key := rest.takeWhile Text.isWord
          match (rest.dropWhile Text.isWord).dropWhile Text.isBlank with
          | '\x7d' :: '\x7d' :: rest => if key.isEmpty then none else some (key, rest)
          | _ => none
      | _ => none
  | _ => none

/-- The parts of a template.  `skipping` counts the characters at its beginning
that belong to a placeholder before it. -/
def pieces (skipping : Nat) : List Char → List Piece
  | [] => []
  | char :: rest =>
      match skipping with
      | skipping + 1 => pieces skipping rest
      | 0 =>
          match placeholder? (char :: rest) with
          | some (key, after) =>
              .placeholder (String.ofList key) :: pieces (rest.length - after.length) rest
          | none => .plain char :: pieces 0 rest

/-- What a part of a template stands for; an error with the key that has no
value. -/
def Piece.text (values : TemplateValues) : Piece → Except String (List Char)
  | .plain char => .ok [char]
  | .placeholder key =>
      match values.find? key with
      | some value => .ok value.toList
      | none => .error key

/-- The template with its values; an error with the first key that has none. -/
def fill (template : String) (values : TemplateValues) : Except String String := do
  let texts ← (pieces 0 template.toList).mapM (Piece.text values)
  return String.ofList texts.flatten

example : (fill "a\x7b\x7b .x \x7d\x7d\x7b\x7d" [("x", "b")]).toOption = some "ab\x7b\x7d" := by
  decide +kernel

end Template

end PoolOperator
