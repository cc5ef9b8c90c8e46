import LaunchLine.Config.Field
import LaunchLine.Json.Json5
import LaunchLine.Json.Standard

/-!
# Config/FromJson — configs written in JSON

A config is an object, or an array of the ten fields in order.  Texts are read as JSON5 first and,
if that fails for whatever reason, as standard JSON.
-/

namespace LaunchLine.Config

open Json (Value)

/-- How numbers are read, which is the only difference between the fields of the two dialects. -/
structure JsonNumbers where
  float? : String → Option Float
  count? : String → Option UInt32

/-- The texts of a list of strings. -/
def textsOf? (items : List Value) : Option (List String) :=
  items.mapM fun
    | .string text => some text
    | _ => none

/-- Read the fields of a config from JSON values; null sets nothing. -/
def jsonReader (numbers : JsonNumbers) : FieldReader Value where
  float
    | .null => some none
    | .number lexeme => (numbers.float? lexeme).map some
    | _ => none
  text
    | .null => some none
    | .string text => some (some text)
    | _ => none
  switch
    | .null => some none
    | .bool b => some (some b)
    | _ => none
  count
    | .null => some none
    | .number lexeme => (numbers.count? lexeme).map some
    | _ => none
  words
    | .null => some none
    | .array items => (textsOf? items).map some
    | _ => none

/-- The config of a document in standard JSON. -/
def ofStandardJson? (text : String) : Option Config := do
  let reader := jsonReader ⟨Json.Standard.float?, Json.Standard.count?⟩
  match ← Json.standard.parse? text with
  | .object members => reader.config? members
  | .array items => if items.length = keys.length then reader.config? (keys.zip items) else none
  | _ => none

/-- The config of a document in JSON5.  What stands at other keys must denote something; items
behind the tenth need not. -/
def ofJson5? (text : String) : Option Config := do
  let reader := jsonReader ⟨Json.Json5.float?, Json.Json5.count?⟩
  match ← Json.json5.parse? text with
  | .object members =>
    let others := members.filter fun member => !keys.contains member.1
    if Json.Json5.membersDenote others then reader.config? members else none
  | .array items => if keys.length ≤ items.length then reader.config? (keys.zip items) else none
  | _ => none

/-- The config of a document in either dialect. -/
def ofJson? (text : String) : Option Config :=
  ofJson5? text <|> ofStandardJson? text

end LaunchLine.Config
