import LaunchLine.Yaml.Token

/-!
# Yaml/Value — YAML documents as trees

A scalar keeps its style and its tag, since both decide what it may stand for.  An alias means the
node that carries its number last, wherever that is.
-/

namespace LaunchLine.Yaml

/-- A node of a document. -/
inductive Value
  | scalar (anchor? : Option Nat) (tag? : Option (List Char)) (style : Style) (text : List Char)
  | sequence (anchor? : Option Nat) (items : List Value)
  | mapping (anchor? : Option Nat) (entries : List (Value × Value))
  | aliasTo (id : Nat)
  deriving Repr

namespace Value

/-- The scalar that stands where nothing is written. -/
def nothing : Value :=
  .scalar none none .plain []

/-- A node by its number, if it has one. -/
def numbered (anchor? : Option Nat) (node : Value) : List (Nat × Value) :=
  (anchor?.map fun id => (id, node)).toList

mutual

/-- The numbered nodes of a tree, in the order in which they begin. -/
def anchored : Value → List (Nat × Value)
  | scalar anchor? tag? style text => numbered anchor? (scalar anchor? tag? style text)
  | sequence anchor? items => numbered anchor? (sequence anchor? items) ++ anchoredItems items
  | mapping anchor? entries => numbered anchor? (mapping anchor? entries) ++ anchoredEntries entries
  | aliasTo _ => []

/-- The numbered nodes of the items of a sequence. -/
def anchoredItems : List Value → List (Nat × Value)
  | [] => []
  | item :: items => anchored item ++ anchoredItems items

/-- The numbered nodes of the entries of a mapping. -/
def anchoredEntries : List (Value × Value) → List (Nat × Value)
  | [] => []
  | (key, value) :: entries => anchored key ++ anchored value ++ anchoredEntries entries

end

/-- The node that is meant by a node of the document: for an alias the one it stands for, and else
the node itself. -/
def resolve? (document : Value) : Value → Option Value
  | aliasTo id => document.anchored.reverse.lookup id
  | node => some node

end Value

end LaunchLine.Yaml
