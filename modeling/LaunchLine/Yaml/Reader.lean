import LaunchLine.Yaml.Lexer
import LaunchLine.Yaml.Value

/-!
# Yaml/Reader — tokens as a document

Nodes are read by recursive descent.  Where the grammar expects a node and the next token begins
none, the node is `Value.nothing`; which tokens these are depends on the collection, so each reader
names them. A text holds one document at most.
-/

namespace LaunchLine.Yaml

/-- What tag handles are short for. -/
abbrev TagMeanings := List (List Char × List Char)

/-- The handles that need no directive. -/
def defaultTagMeanings : TagMeanings :=
  [(['!'], ['!']), (['!', '!'], "tag:yaml.org,2002:".toList)]

/-- The anchor and the tag of a node. -/
structure Properties where
  anchor? : Option Nat
  tag? : Option (List Char)

namespace Properties

/-- Whether there is neither an anchor nor a tag. -/
def isEmpty (p : Properties) : Bool :=
  p.anchor?.isNone && p.tag?.isNone

/-- The whole name of a tag; its handle must be short for something. -/
def expand? (meanings : TagMeanings) (handle suffix : List Char) : Option (List Char) :=
  if handle = [] then some suffix
  else (meanings.lookup handle).map fun expansion => expansion ++ suffix

/-- Read an anchor and a tag, in either order. -/
def read? (meanings : TagMeanings) : List Token → Option (Properties × List Token)
  | .anchor id :: .tag handle suffix :: rest
  | .tag handle suffix :: .anchor id :: rest =>
    (expand? meanings handle suffix).map fun tag => (⟨some id, some tag⟩, rest)
  | .anchor id :: rest => some (⟨some id, none⟩, rest)
  | .tag handle suffix :: rest =>
    (expand? meanings handle suffix).map fun tag => (⟨none, some tag⟩, rest)
  | rest => some (⟨none, none⟩, rest)

/-- A scalar with these properties.  An exclamation mark alone is no tag of a scalar. -/
def scalar (p : Properties) (style : Style) (text : List Char) : Value :=
  .scalar p.anchor? (p.tag?.filter (· ≠ ['!'])) style text

end Properties

/-- Where a node stands: inside a flow collection, or in a block, where a sequence that belongs to a
mapping need not be indented. -/
inductive Place
  | flow
  | block
  | blockValue
  deriving DecidableEq, Repr

mutual

/-- Read a node. -/
def node? (meanings : TagMeanings) (place : Place) :
    (fuel : Nat) → List Token → Option (Value × List Token)
  | 0, _ => none
  | fuel + 1, tokens =>
    match tokens with
    | .aliasTo id :: rest => some (.aliasTo id, rest)
    | tokens => do
      let (p, tokens) ← Properties.read? meanings tokens
      match tokens with
      | .blockEntry :: _ =>
        if place = .blockValue then
          (looseItems? meanings fuel tokens).map fun (items, rest) =>
            (.sequence p.anchor? items, rest)
        else if p.isEmpty then none
        else some (.scalar p.anchor? p.tag? .plain [], tokens)
      | .scalar style text :: rest => some (p.scalar style text, rest)
      | .flowSequenceStart :: rest =>
        (flowItems? meanings true fuel rest).map fun (items, rest) =>
          (.sequence p.anchor? items, rest)
      | .flowMappingStart :: rest =>
        (flowEntries? meanings true fuel rest).map fun (entries, rest) =>
          (.mapping p.anchor? entries, rest)
      | .blockSequenceStart :: rest =>
        if place = .flow then none
        else
          (blockItems? meanings fuel rest).map fun (items, rest) =>
            (.sequence p.anchor? items, rest)
      | .blockMappingStart :: rest =>
        if place = .flow then none
        else
          (blockEntries? meanings fuel rest).map fun (entries, rest) =>
            (.mapping p.anchor? entries, rest)
      | _ => if p.isEmpty then none else some (.scalar p.anchor? p.tag? .plain [], tokens)

/-- Read the items of a block sequence and its end. -/
def blockItems? (meanings : TagMeanings) :
    (fuel : Nat) → List Token → Option (List Value × List Token)
  | 0, _ => none
  | fuel + 1, tokens =>
    match tokens with
    | .blockEnd :: rest => some ([], rest)
    | .blockEntry :: rest => do
      let (item, rest) ←
        match rest with
        | .blockEntry :: _ | .blockEnd :: _ => some (Value.nothing, rest)
        | _ => node? meanings .block fuel rest
      let (items, rest) ← blockItems? meanings fuel rest
      some (item :: items, rest)
    | _ => none

/-- Read the items of a block sequence that is not indented; it ends where no item follows. -/
def looseItems? (meanings : TagMeanings) :
    (fuel : Nat) → List Token → Option (List Value × List Token)
  | 0, _ => none
  | fuel + 1, tokens =>
    match tokens with
    | .blockEntry :: rest => do
      let (item, rest) ←
        match rest with
        | .blockEntry :: _ | .key :: _ | .value :: _ | .blockEnd :: _ => some (Value.nothing, rest)
        | _ => node? meanings .block fuel rest
      let (items, rest) ← looseItems? meanings fuel rest
      some (item :: items, rest)
    | rest => some ([], rest)

/-- Read the entries of a block mapping and its end. -/
def blockEntries? (meanings : TagMeanings) :
    (fuel : Nat) → List Token → Option (List (Value × Value) × List Token)
  | 0, _ => none
  | fuel + 1, tokens =>
    match tokens with
    | .blockEnd :: rest => some ([], rest)
    | .key :: rest => do
      let (key, rest) ← blockPart? meanings fuel rest
      let (value, rest) ←
        match rest with
        | .value :: rest => blockPart? meanings fuel rest
        | _ => some (Value.nothing, rest)
      let (entries, rest) ← blockEntries? meanings fuel rest
      some ((key, value) :: entries, rest)
    | _ => none

/-- Read the key or the value of an entry of a block mapping. -/
def blockPart? (meanings : TagMeanings) :
    (fuel : Nat) → List Token → Option (Value × List Token)
  | 0, _ => none
  | fuel + 1, tokens =>
    match tokens with
    | .key :: _ | .value :: _ | .blockEnd :: _ => some (Value.nothing, tokens)
    | _ => node? meanings .blockValue fuel tokens

/-- Read the items of a flow sequence and its end.  An item may be a mapping of one entry. -/
def flowItems? (meanings : TagMeanings) (first : Bool) :
    (fuel : Nat) → List Token → Option (List Value × List Token)
  | 0, _ => none
  | fuel + 1, tokens =>
    match tokens with
    | .flowSequenceEnd :: rest => some ([], rest)
    | _ => do
      let tokens ←
        match first, tokens with
        | true, _ => some tokens
        | false, .flowEntry :: rest => some rest
        | false, _ => none
      match tokens with
      | .flowSequenceEnd :: rest => some ([], rest)
      | .key :: rest => do
        let (entry, rest) ← flowPair? meanings fuel rest
        let (items, rest) ← flowItems? meanings false fuel rest
        some (.mapping none [entry] :: items, rest)
      | _ => do
        let (item, rest) ← node? meanings .flow fuel tokens
        let (items, rest) ← flowItems? meanings false fuel rest
        some (item :: items, rest)

/-- Read the entry of a mapping that is an item of a flow sequence.  Where the key is missing, the
token in its place is passed over. -/
def flowPair? (meanings : TagMeanings) :
    (fuel : Nat) → List Token → Option ((Value × Value) × List Token)
  | 0, _ => none
  | fuel + 1, tokens => do
    let (key, rest) ←
      match tokens with
      | .value :: rest | .flowEntry :: rest | .flowSequenceEnd :: rest => some (Value.nothing, rest)
      | _ => node? meanings .flow fuel tokens
    match rest with
    | .value :: rest =>
      match rest with
      | .flowEntry :: _ | .flowSequenceEnd :: _ => some ((key, Value.nothing), rest)
      | _ => (node? meanings .flow fuel rest).map fun (value, rest) => ((key, value), rest)
    | _ => some ((key, Value.nothing), rest)

/-- Read the entries of a flow mapping and its end.  An entry may be a key alone. -/
def flowEntries? (meanings : TagMeanings) (first : Bool) :
    (fuel : Nat) → List Token → Option (List (Value × Value) × List Token)
  | 0, _ => none
  | fuel + 1, tokens =>
    match tokens with
    | .flowMappingEnd :: rest => some ([], rest)
    | _ => do
      let tokens ←
        match first, tokens with
        | true, _ => some tokens
        | false, .flowEntry :: rest => some rest
        | false, _ => none
      match tokens with
      | .flowMappingEnd :: rest => some ([], rest)
      | .key :: rest => do
        let (key, rest) ←
          match rest with
          | .value :: _ | .flowEntry :: _ | .flowMappingEnd :: _ => some (Value.nothing, rest)
          | _ => node? meanings .flow fuel rest
        let (value, rest) ←
          match rest with
          | .value :: rest =>
            match rest with
            | .flowEntry :: _ | .flowMappingEnd :: _ => some (Value.nothing, rest)
            | _ => node? meanings .flow fuel rest
          | _ => some (Value.nothing, rest)
        let (entries, rest) ← flowEntries? meanings false fuel rest
        some ((key, value) :: entries, rest)
      | _ => do
        let (key, rest) ← node? meanings .flow fuel tokens
        let (entries, rest) ← flowEntries? meanings false fuel rest
        some ((key, Value.nothing) :: entries, rest)

end

/-- Read directives.  There may be one version, 1.1 or 1.2, and one meaning for a handle. -/
def directives? :
    (versionSeen : Bool) → TagMeanings → List Token → Option (TagMeanings × List Token)
  | versionSeen, meanings, .versionDirective major minor :: rest =>
    if versionSeen || major ≠ 1 || !(minor = 1 || minor = 2) then none
    else directives? true meanings rest
  | versionSeen, meanings, .tagDirective handle expansion :: rest =>
    if (meanings.lookup handle).isSome then none
    else directives? versionSeen (meanings ++ [(handle, expansion)]) rest
  | _, meanings, rest => some (meanings, rest)

/-- Read the content of a document behind its mark. -/
def content? (meanings : TagMeanings) (tokens : List Token) : Option (Value × List Token) :=
  match tokens with
  | [] | .versionDirective _ _ :: _ | .tagDirective _ _ :: _ | .documentStart :: _
  | .documentEnd :: _ => some (.nothing, tokens)
  | _ => node? meanings .block (2 * tokens.length + 2) tokens

/-- Read a document with its directives and its mark, which are absent if the text begins otherwise.
-/
def document? (tokens : List Token) : Option (Value × List Token) :=
  match tokens with
  | .versionDirective _ _ :: _ | .tagDirective _ _ :: _ | .documentStart :: _ => do
    let (meanings, rest) ← directives? false [] tokens
    match rest with
    | .documentStart :: rest => content? (meanings ++ defaultTagMeanings) rest
    | _ => none
  | _ => node? defaultTagMeanings .block (2 * tokens.length + 2) tokens

/-- The document of a text, which stands for nothing if there is none. -/
def parse? (text : String) : Option Value := do
  let tokens ← tokens? text
  match tokens with
  | [] => some .nothing
  | _ =>
    let (value, rest) ← document? tokens
    if rest.all (· == .documentEnd) then some value else none

end LaunchLine.Yaml
