import LaunchLine.Text.Extending
import LaunchLine.Text.Printable

/-!
# Text/Quoted — a text between quotes on one line, every character visible

`quoted` writes a text so that it can be told apart from its surroundings: the quote and the
backslash are escaped, line breaks, tabs and NUL have short escapes, and a character that would not
show, or would melt into the one before it, is written as its code point.
-/

namespace LaunchLine.Text

/-- The lower-case hexadecimal digits of a number, without leading zeros. -/
def hexDigits (n : Nat) : List Char :=
  Nat.toDigits 16 n

/-- One character between quotes. -/
def quotedChar (c : Char) : List Char :=
  match c with
  | '\"' => ['\\', '\"']
  | '\\' => ['\\', '\\']
  | '\n' => ['\\', 'n']
  | '\r' => ['\\', 'r']
  | '\t' => ['\\', 't']
  | '\x00' => ['\\', '0']
  | c =>
    if isExtending c || !isPrintable c then
      ['\\', 'u', '\x7b'] ++ hexDigits c.toNat ++ ['\x7d']
    else [c]

/-- The text between quotes. -/
def quoted (text : String) : String :=
  String.ofList ('\"' :: text.toList.flatMap quotedChar ++ ['\"'])

end LaunchLine.Text
