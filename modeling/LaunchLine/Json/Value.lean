/-!
# Json/Value — JSON documents as trees

A number is kept as it is written, since readers disagree on what a long one denotes.  A string
whose escapes name half of a surrogate pair on its own is a JSON string and not a text: such a
string, and an object with such a key, is `garbled`.
-/

namespace LaunchLine.Json

/-- A JSON value. -/
inductive Value
  | null
  | bool (b : Bool)
  | number (lexeme : String)
  | string (text : String)
  | garbled
  | array (items : List Value)
  | object (members : List (String × Value))
  deriving Repr

namespace Value

/-- A number without sign, point or exponent. -/
def ofNat (n : Nat) : Value :=
  .number n.repr

/-- A text, or null. -/
def ofText? : Option String → Value
  | some text => .string text
  | none => .null

/-- A number, or null. -/
def ofNat? : Option Nat → Value
  | some n => .ofNat n
  | none => .null

/-- A list of texts. -/
def ofTexts (texts : List String) : Value :=
  .array (texts.map .string)

end Value

end LaunchLine.Json
