import ApiSite.Yaml.Token
import ApiSite.Yaml.Tag

/-!
The nodes of a YAML document: its tokens put together to scalars, sequences and mappings, each with
its type. An alias stands for the node with its anchor.
-/

set_option autoImplicit false

namespace ApiSite.Yaml

/-- A node of a document. -/
inductive Node where
  | scalar (tag : Tag) (text : Text)
  | sequence (tag : Tag) (items : List Node)
  | mapping (tag : Tag) (entries : List (Node × Node))

namespace Node

/-- The node of what is left out. -/
def empty : Node := .scalar .null []

/-- Reading nodes: the tokens to come, the meanings of tag handles, and the nodes with an anchor;
those that are not complete have none yet. -/
structure Reader where
  tokens : List Token
  handles : List (Text × Text) := []
  anchors : List (Text × Option Node) := []

/-- A step of the reading. -/
abbrev Reading := StateT Reader (Except Error)

/-- The next token. -/
def peek : Reading Token := do return ((← get).tokens.head?).getD .streamEnd

/-- Moves behind the next token. -/
def drop : Reading Unit := modify fun r => { r with tokens := r.tokens.drop 1 }

/-- Moves behind the next token if it is the given one. -/
def take? (t : Token) : Reading Bool := do
  if (← peek) = t then
    drop
    return true
  else return false

/-- The source is not well formed. -/
def fail {α : Type} : Reading α := throw .malformed

/-- The full text of a tag. -/
def fullTag (handle : Option Text) (rest : Text) : Reading Text := do
  match handle with
  | none => return rest
  | some h =>
    match (← get).handles.find? (·.1 == h) with
    | some (_, meaning) => return meaning ++ rest
    | none => fail

/-- The anchor and the tag before a node, in either order. -/
def properties : Reading (Option Text × Option Text) := do
  match ← peek with
  | .anchor name =>
    drop
    match ← peek with
    | .tag h t =>
      drop
      return (some name, some (← fullTag h t))
    | _ => return (some name, none)
  | .tag h t =>
    drop
    match ← peek with
    | .anchor name =>
      drop
      return (some name, some (← fullTag h t))
    | _ => return (none, some (← fullTag h t))
  | _ => return (none, none)

/-- The type of a collection. -/
def collectionTag (byForm : Tag) (tag : Option Text) : Tag :=
  match tag with
  | some t => if t == "!" then byForm else Tag.ofText t
  | none => byForm

/-- The type of a scalar. -/
def scalarTag (plain : Bool) (tag : Option Text) (text : Text) : Tag :=
  match tag with
  | some t => if t == "!" then Tag.ofPlain text else Tag.ofText t
  | none => if plain then Tag.ofPlain text else .str

/-- Notes that a node with an anchor begins. -/
def openAnchor (name : Option Text) : Reading Unit := do
  match name with
  | none => return
  | some name =>
    if (← get).anchors.any (·.1 == name) then fail
    else modify fun r => { r with anchors := (name, none) :: r.anchors }

/-- Notes the node that has an anchor. -/
def closeAnchor (name : Option Text) (node : Node) : Reading Unit :=
  match name with
  | none => return
  | some name => modify fun r => { r with
      anchors := r.anchors.map fun a => if a.1 == name then (name, some node) else a }

mutual

/-- Reads a node: in a block context block collections may begin, and where a mapping's value is
expected a sequence may be indented no further than the mapping. `fuel` bounds the steps. -/
def node : Nat → (inBlock indentless : Bool) → Reading Node
  | 0, _, _ => fail
  | fuel + 1, inBlock, indentless => do
    match ← peek with
    | .alias name =>
      drop
      match (← get).anchors.find? (·.1 == name) with
      | some (_, some n) => return n
      | some (_, none) => throw .impossible
      | none => fail
    | _ =>
      let (anchor, tag) ← properties
      openAnchor anchor
      let n ← content fuel inBlock indentless (anchor.isSome || tag.isSome) tag
      closeAnchor anchor n
      return n

/-- Reads what follows the anchor and the tag of a node. -/
def content : Nat → (inBlock indentless mayBeEmpty : Bool) → Option Text → Reading Node
  | 0, _, _, _, _ => fail
  | fuel + 1, inBlock, indentless, mayBeEmpty, tag => do
    let next ← peek
    if indentless && next = .blockEntry then
      return .sequence (collectionTag .seq tag) (← indentlessItems fuel)
    match next with
    | .scalar text plain =>
      drop
      return .scalar (scalarTag plain tag text) text
    | .flowSequence =>
      drop
      return .sequence (collectionTag .seq tag) (← flowItems fuel true)
    | .flowMapping =>
      drop
      return .mapping (collectionTag .map tag) (← flowEntries fuel true)
    | .blockSequence =>
      if inBlock then
        drop
        return .sequence (collectionTag .seq tag) (← blockItems fuel)
      else if mayBeEmpty then return .scalar (scalarTag true tag []) []
      else fail
    | .blockMapping =>
      if inBlock then
        drop
        return .mapping (collectionTag .map tag) (← blockEntries fuel)
      else if mayBeEmpty then return .scalar (scalarTag true tag []) []
      else fail
    | _ => if mayBeEmpty then return .scalar (scalarTag true tag []) [] else fail

/-- Items behind hyphens, up to the end of their block. -/
def blockItems : Nat → Reading (List Node)
  | 0 => fail
  | fuel + 1 => do
    if ← take? .blockEntry then
      let next ← peek
      let item ← if next = .blockEntry ∨ next = .blockEnd then pure empty
        else node fuel true false
      return item :: (← blockItems fuel)
    else if ← take? .blockEnd then return []
    else fail

/-- Items behind hyphens that stand at the column of the mapping around them. -/
def indentlessItems : Nat → Reading (List Node)
  | 0 => fail
  | fuel + 1 => do
    if ← take? .blockEntry then
      let next ← peek
      let item ← if next = .blockEntry ∨ next = .key ∨ next = .value ∨ next = .blockEnd then
          pure empty
        else node fuel true false
      return item :: (← indentlessItems fuel)
    else return []

/-- A key or a value of a block mapping; it may be left out. -/
def blockPart : Nat → Reading Node
  | 0 => fail
  | fuel + 1 => do
    let next ← peek
    if next = .key ∨ next = .value ∨ next = .blockEnd then return empty
    else node fuel true true

/-- The entries of a block mapping, up to its end. -/
def blockEntries : Nat → Reading (List (Node × Node))
  | 0 => fail
  | fuel + 1 => do
    if ← take? .key then
      let key ← blockPart fuel
      let value ← if ← take? .value then blockPart fuel else pure empty
      return (key, value) :: (← blockEntries fuel)
    else if ← take? .blockEnd then return []
    else fail

/-- A key or a value within a flow collection that the given token ends; it may be left out. -/
def flowPart : Nat → (ending : Token) → (isKey : Bool) → Reading Node
  | 0, _, _ => fail
  | fuel + 1, ending, isKey => do
    let next ← peek
    if next = .flowEntry ∨ next = ending ∨ (isKey ∧ next = .value) then return empty
    else node fuel false false

/-- The items of a flow sequence, up to its end; each but the first follows a comma. An item may be
a mapping of one entry. -/
def flowItems : Nat → (first : Bool) → Reading (List Node)
  | 0, _ => fail
  | fuel + 1, first => do
    if ← take? .flowSequenceEnd then return []
    if !first then
      if !(← take? .flowEntry) then fail
    if ← take? .key then
      let key ← flowPart fuel .flowSequenceEnd true
      let value ← if ← take? .value then flowPart fuel .flowSequenceEnd false else pure empty
      return .mapping .map [(key, value)] :: (← flowItems fuel false)
    else if ← take? .flowSequenceEnd then return []
    else
      let item ← node fuel false false
      return item :: (← flowItems fuel false)

/-- The entries of a flow mapping, up to its end; each but the first follows a comma. -/
def flowEntries : Nat → (first : Bool) → Reading (List (Node × Node))
  | 0, _ => fail
  | fuel + 1, first => do
    if ← take? .flowMappingEnd then return []
    if !first then
      if !(← take? .flowEntry) then fail
    if ← take? .key then
      let key ← flowPart fuel .flowMappingEnd true
      let value ← if ← take? .value then flowPart fuel .flowMappingEnd false else pure empty
      return (key, value) :: (← flowEntries fuel false)
    else if ← take? .flowMappingEnd then return []
    else
      let key ← node fuel false false
      return (key, empty) :: (← flowEntries fuel false)

end

/-- The meanings of tag handles where no directive gives others. -/
def defaultHandles : List (Text × Text) := [("!", "!"), ("!!", Tag.standard)]

/-- Reads the directives of a document; the flag says that one has named a version. -/
def directives : Nat → Bool → Reading Unit
  | 0, _ => fail
  | fuel + 1, versioned => do
    match ← peek with
    | .version major =>
      drop
      if versioned || major != 1 then fail else directives fuel true
    | .tagHandle h meaning =>
      drop
      if (← get).handles.any (·.1 == h) then fail
      else
        modify fun r => { r with handles := r.handles ++ [(h, meaning)] }
        directives fuel versioned
    | .otherDirective =>
      drop
      directives fuel versioned
    | _ => modify fun r => { r with handles := r.handles ++ defaultHandles }

/-- Moves behind marks of a document's end. -/
def dropEnds : Nat → Reading Unit
  | 0 => return
  | fuel + 1 => do if ← take? .documentEnd then dropEnds fuel

/-- The single document of a source, if it has one. -/
def document (fuel : Nat) : Reading (Option Node) := do
  let finish (n : Node) : Reading (Option Node) := do
    dropEnds fuel
    if ← take? .streamEnd then return some n else fail
  match ← peek with
  | .streamEnd => return none
  | .version _ | .tagHandle _ _ | .otherDirective | .documentStart =>
    directives fuel false
    if !(← take? .documentStart) then fail
    match ← peek with
    | .version _ | .tagHandle _ _ | .otherDirective | .documentStart | .documentEnd | .streamEnd =>
      finish empty
    | _ => finish (← node fuel true false)
  | _ =>
    modify fun r => { r with handles := defaultHandles }
    finish (← node fuel true false)

/-- Reads the single document of a source, if it has one. -/
def read (source : Text) : Except Error (Option Node) :=
  match Token.read source with
  | .error e => .error e
  | .ok tokens => ((document (6 * tokens.length + 16)).run ⟨tokens, [], []⟩).map (·.1)

end Node

end ApiSite.Yaml
