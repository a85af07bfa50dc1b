import AvControl.Text.Unprintable

/-!
# Quoted text

Messages that mention a name put it between double quotes. The quotes, the backslash and the
common control characters have short escapes, and every other unprintable character is shown by
its number in lower-case hexadecimal, so that a quoted name occupies one line and shows every
character it holds.
-/

namespace AvControl.Text

/-- The number of a character between braces, in lower-case hexadecimal without padding. -/
def numbered (c : Char) : List Char :=
  '\\' :: 'u' :: '\x7b' :: Nat.toDigits 16 c.toNat ++ ['\x7d']

/-- How one character appears inside a quoted text. -/
def quotedChar (c : Char) : List Char :=
  match c with
  | '"' => ['\\', '"']
  | '\\' => ['\\', '\\']
  | '\n' => ['\\', 'n']
  | '\r' => ['\\', 'r']
  | '\t' => ['\\', 't']
  | '\x00' => ['\\', '0']
  | c => if isUnprintable c then numbered c else [c]

/-- A text between double quotes, with every character that would not show itself escaped. -/
def quoted (text : String) : String :=
  String.ofList ('"' :: text.toList.flatMap quotedChar ++ ['"'])

end AvControl.Text
