import LaunchLine.Json.Value

/-!
# Json/Printer — JSON with one item a line

Arrays and objects that hold something are spread over lines, two blanks deeper than the line they
open on; empty ones stay on it.  Strings escape the quote, the backslash and the controls below
U+0020, and leave every other character as it is.
-/

namespace LaunchLine.Json

/-- A character inside a string. -/
def escapeChar (c : Char) : List Char :=
  match c with
  | '\"' => ['\\', '\"']
  | '\\' => ['\\', '\\']
  | '\x08' => ['\\', 'b']
  | '\x0c' => ['\\', 'f']
  | '\n' => ['\\', 'n']
  | '\r' => ['\\', 'r']
  | '\t' => ['\\', 't']
  | c =>
    if c.toNat < 32 then
      ['\\', 'u', '0', '0', Nat.digitChar (c.toNat / 16), Nat.digitChar (c.toNat % 16)]
    else [c]

/-- A string between its quotes. -/
def renderString (text : String) : List Char :=
  '\"' :: text.toList.flatMap escapeChar ++ ['\"']

/-- The beginning of a line at a depth. -/
def newline (depth : Nat) : List Char :=
  '\n' :: List.replicate (2 * depth) ' '

mutual

/-- A value that stands at a depth; a garbled one as a string that names half a surrogate pair. -/
def renderAt (depth : Nat) : Value → List Char
  | .null => ['n', 'u', 'l', 'l']
  | .bool true => ['t', 'r', 'u', 'e']
  | .bool false => ['f', 'a', 'l', 's', 'e']
  | .number lexeme => lexeme.toList
  | .string text => renderString text
  | .garbled => ['\"', '\\', 'u', 'd', '8', '0', '0', '\"']
  | .array [] => ['[', ']']
  | .array (item :: items) =>
    '[' :: newline (depth + 1) ++ renderAt (depth + 1) item ++ renderItems (depth + 1) items ++
      newline depth ++ [']']
  | .object [] => ['\x7b', '\x7d']
  | .object ((key, value) :: members) =>
    '\x7b' :: newline (depth + 1) ++ renderString key ++ ':' :: ' ' :: renderAt (depth + 1) value ++
      renderMembers (depth + 1) members ++ newline depth ++ ['\x7d']

/-- The items behind the first one, each on its line. -/
def renderItems (depth : Nat) : List Value → List Char
  | [] => []
  | item :: items => ',' :: newline depth ++ renderAt depth item ++ renderItems depth items

/-- The members behind the first one, each on its line. -/
def renderMembers (depth : Nat) : List (String × Value) → List Char
  | [] => []
  | (key, value) :: members =>
    ',' :: newline depth ++ renderString key ++ ':' :: ' ' :: renderAt depth value ++
      renderMembers depth members

end

/-- The text of a value. -/
def Value.render (value : Value) : String :=
  String.ofList (renderAt 0 value)

end LaunchLine.Json
