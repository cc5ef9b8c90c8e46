import LaunchLine.Json.Literal
import LaunchLine.Json.Value

/-!
# Json/Reader — JSON text as a tree, in one of its dialects

The dialects of JSON agree on how values nest and differ in their words: what may stand between two
of them, how strings, keys and numbers are written, and whether a comma may follow the last item.  A
`Dialect` holds these differences; `Dialect.parse?` reads a whole text.
-/

namespace LaunchLine.Json

/-- The words of a dialect.  Each reader takes its word off the front of a text; a string or key
that denotes no text is read as `none`. -/
structure Dialect where
  /-- Drop what may stand between two words; a comment that does not end is an error. -/
  skip : List Char → Option (List Char)
  string? : List Char → Option (Option String × List Char)
  key? : List Char → Option (Option String × List Char)
  number? : List Char → Option (List Char × List Char)
  /-- Whether a comma may follow the last item. -/
  trailingComma : Bool

namespace Dialect

variable (d : Dialect)

/-- An object, unless one of its keys denotes no text. -/
def objectOf (members : List (Option String × Value)) : Value :=
  match members.mapM fun (key?, value) => key?.map fun key => (key, value) with
  | some members => .object members
  | none => .garbled

mutual

/-- Read a value off the front of a text that begins with one. -/
def readValue : (fuel : Nat) → List Char → Option (Value × List Char)
  | 0, _ => none
  | fuel + 1, text =>
    match text with
    | 'n' :: 'u' :: 'l' :: 'l' :: rest => some (.null, rest)
    | 't' :: 'r' :: 'u' :: 'e' :: rest => some (.bool true, rest)
    | 'f' :: 'a' :: 'l' :: 's' :: 'e' :: rest => some (.bool false, rest)
    | '[' :: rest => do
      let rest ← d.skip rest
      match rest with
      | ']' :: rest => some (.array [], rest)
      | _ =>
        let (items, rest) ← readItems fuel rest
        some (.array items, rest)
    | '\x7b' :: rest => do
      let rest ← d.skip rest
      match rest with
      | '\x7d' :: rest => some (.object [], rest)
      | _ =>
        let (members, rest) ← readMembers fuel rest
        some (objectOf members, rest)
    | text =>
      match d.string? text with
      | some (some string, rest) => some (.string string, rest)
      | some (none, rest) => some (.garbled, rest)
      | none => (d.number? text).map fun (lexeme, rest) => (.number (String.ofList lexeme), rest)

/-- Read items to the end of their array. -/
def readItems : (fuel : Nat) → List Char → Option (List Value × List Char)
  | 0, _ => none
  | fuel + 1, text => do
    let (item, rest) ← readValue fuel text
    let rest ← d.skip rest
    match rest with
    | ']' :: rest => some ([item], rest)
    | ',' :: rest =>
      let rest ← d.skip rest
      match d.trailingComma, rest with
      | true, ']' :: rest => some ([item], rest)
      | _, _ =>
        let (items, rest) ← readItems fuel rest
        some (item :: items, rest)
    | _ => none

/-- Read members to the end of their object. -/
def readMembers : (fuel : Nat) → List Char → Option (List (Option String × Value) × List Char)
  | 0, _ => none
  | fuel + 1, text => do
    let (key?, rest) ← d.key? text
    let rest ← d.skip rest
    let ':' :: rest := rest | none
    let rest ← d.skip rest
    let (value, rest) ← readValue fuel rest
    let rest ← d.skip rest
    match rest with
    | '\x7d' :: rest => some ([(key?, value)], rest)
    | ',' :: rest =>
      let rest ← d.skip rest
      match d.trailingComma, rest with
      | true, '\x7d' :: rest => some ([(key?, value)], rest)
      | _, _ =>
        let (members, rest) ← readMembers fuel rest
        some ((key?, value) :: members, rest)
    | _ => none

end

/-- Read a text that holds one value and nothing else.  Two steps for each character are enough. -/
def parse? (text : String) : Option Value := do
  let chars ← d.skip text.toList
  let (value, rest) ← d.readValue (2 * chars.length + 2) chars
  let rest ← d.skip rest
  if rest = [] then some value else none

end Dialect

end LaunchLine.Json
