import PoolOperator.Text.HiddenRanges
import PoolOperator.Text.CharClass
import PoolOperator.Value.Text

/-!
# Texts in quotes, for messages

The form in which error messages show a text that came from outside: in double
quotes, with a backslash before quotes and backslashes, short escapes for the
common control characters, and the number of any other character that would
not be seen.
-/

namespace PoolOperator.Text

/-- Would the character not be seen, or change the one before it? -/
def isHidden (char : Char) : Bool :=
  if char.toNat < 0x7F then char.toNat < 0x20 else inRanges hiddenRanges char

/-- A character inside quotes. -/
def quotedChar (char : Char) : List Char :=
  match char with
  | '\x00' => ['\\', '0']
  | '\t' => ['\\', 't']
  | '\n' => ['\\', 'n']
  | '\r' => ['\\', 'r']
  | '\x22' => ['\\', '\x22']
  | '\\' => ['\\', '\\']
  | char =>
      if isHidden char then ['\\', 'u', '\x7b'] ++ Nat.toDigits 16 char.toNat ++ ['\x7d']
        else [char]

/-- A text in quotes. -/
def quoted (text : String) : String :=
  String.ofList ('\x22' :: text.toList.flatMap quotedChar ++ ['\x22'])

example : quoted "a\x22\n\x07" = "\x22a\\\x22\\n\\u\x7b7\x7d\x22" := by decide +kernel

end PoolOperator.Text
