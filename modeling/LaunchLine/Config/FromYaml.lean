import LaunchLine.Config.Field
import LaunchLine.Number.Decimal
import LaunchLine.Yaml.Reader

/-!
# Config/FromYaml — configs written in YAML

A config is a mapping from scalars, or nothing.  Numbers and switches are plain scalars; a text is
any scalar, by its characters.  Only a plain scalar can be null.
-/

namespace LaunchLine.Config

open Yaml (Value Style)

/-- The tags of the scalars that have a type. -/
def typeTag (name : String) : List Char :=
  ("tag:yaml.org,2002:" ++ name).toList

/-- The words for null. -/
def isNullWord (text : List Char) : Bool :=
  ["null", "Null", "NULL", "~"].contains (String.ofList text)

/-- Whether a node stands for null; a scalar that is tagged so must be one of the words. -/
def isNull? : Value → Option Bool
  | .scalar _ none .plain text => some (text = [] || isNullWord text)
  | .scalar _ (some tag) .plain text =>
    if tag = typeTag "null" then if isNullWord text then some true else none else some false
  | _ => some false

/-- The characters of a scalar that may be typed: a plain one, or a literal block with the tag of
the type. -/
def typedText? (type : String) : Value → Option (List Char)
  | .scalar _ _ .plain text => some text
  | .scalar _ (some tag) .literal text => if tag = typeTag type then some text else none
  | _ => none

/-- A switch. -/
def switchOf? (text : List Char) : Option Bool :=
  if ["true", "True", "TRUE"].contains (String.ofList text) then some true
  else if ["false", "False", "FALSE"].contains (String.ofList text) then some false
  else none

/-- The value of a digit in a base up to sixteen. -/
def digitValue? (base : Nat) (c : Char) : Option Nat := do
  let n ← Json.hexValue? c
  if n < base then some n else none

/-- The number that digits in a base denote, one digit at least. -/
def digitsIn? (base : Nat) (ds : List Char) : Option Nat :=
  if ds = [] then none
  else ds.foldl (fun n? d => do return base * (← n?) + (← digitValue? base d)) (some 0)

/-- A count: digits with a plus in front or none, in decimal without leading zeros, or in the base
that a mark names. -/
def countOf? (text : List Char) : Option UInt32 := do
  let unsigned := if text.head? = some '+' then text.drop 1 else text
  let n ←
    match unsigned with
    | '0' :: 'x' :: ds => digitsIn? 16 ds
    | '0' :: 'o' :: ds => digitsIn? 8 ds
    | '0' :: 'b' :: ds => digitsIn? 2 ds
    | '0' :: _ :: _ => none
    | ds => digitsIn? 10 ds
  if n < UInt32.size then some n.toUInt32 else none

/-- A float: a decimal number that does not round to infinity, or a word for an infinity or for NaN.
-/
def floatOf? (text : List Char) : Option Float :=
  let word := String.ofList text
  if [".inf", ".Inf", ".INF", "+.inf", "+.Inf", "+.INF"].contains word then some (1.0 / 0.0)
  else if ["-.inf", "-.Inf", "-.INF"].contains word then some (-1.0 / 0.0)
  else if [".nan", ".NaN", ".NAN"].contains word then some (0.0 / 0.0)
  else do
    let d ← Decimal.parse? text
    if d.toFloat.isInf then none else some d.toFloat

/-- The text of a scalar. -/
def scalarText? : Value → Option String
  | .scalar _ _ _ text => some (String.ofList text)
  | _ => none

/-- Read the fields of a config from the nodes of a document. -/
def yamlReader (document : Value) : FieldReader Value :=
  let optional {β : Type} (read : Value → Option β) (node : Value) : Option (Option β) := do
    let node ← document.resolve? node
    if ← isNull? node then some none else (read node).map some
  { float := optional fun node => typedText? "float" node >>= floatOf?
    text := optional scalarText?
    switch := optional fun node => typedText? "bool" node >>= switchOf?
    count := optional fun node => typedText? "int" node >>= countOf?
    words := optional fun
      | .sequence _ items => items.mapM fun item => document.resolve? item >>= scalarText?
      | .scalar _ _ .plain [] => some []
      | _ => none }

/-- The config of a document in YAML. -/
def ofYaml? (text : String) : Option Config := do
  let document ← Yaml.parse? text
  match document with
  | .scalar _ _ .plain [] => some empty
  | .mapping _ entries => do
    let entries ← entries.mapM fun (key, value) => do
      let key ← document.resolve? key >>= scalarText?
      some (key, value)
    (yamlReader document).config? entries
  | _ => none

end LaunchLine.Config
