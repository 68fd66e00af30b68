import ContractScan.Yaml.Lexer
import ContractScan.Yaml.Moment
import ContractScan.Yaml.Tag

/-! # Nodes of a document

The tokens of a document form scalars, sequences and mappings, each with its
tag. Nodes are numbered, and collections hold the numbers of their parts, since
an alias can stand for a node that it is itself a part of.
-/

namespace ContractScan.Yaml

inductive Content where
  | scalar (text : List Char)
  | sequence (items : List Nat)
  | mapping (entries : List (Nat × Nat))
  deriving Repr

structure Node where
  tag : Tag
  content : Content
  deriving Repr

def Node.empty : Node := ⟨.null, .scalar []⟩

/-- The tag that a plain text has by itself. A line feed at its end does not count. -/
def tagOfPlain (text : List Char) : Tag :=
  let plain := withoutLastBreak text
  let word := String.ofList plain
  if plain.isEmpty then if text.isEmpty then .null else .text
  else if isTruthText word then .truth
  else if isRealText plain then .real
  else if isIntegerText plain then .integer
  else if word == "<<" then .merge
  else if isNullText word then .null
  else if isMomentText plain then .moment
  else if word == "=" then .whole
  else if ["!", "&", "*"].contains word then .other
  else .text

/-- A document being read: what is left of the text, the handles of tags, the anchors met so far,
the nodes, and the numbers of the complete ones, last first. -/
structure Builder where
  lexer : Lexer
  handles : List (String × String)
  anchors : List (String × Nat) := []
  nodes : Array Node := #[]
  complete : List Nat := []
  deriving Repr

abbrev Build := StateT Builder (Except Fault)

namespace Build

def peek : Build Token := do
  let b ← get
  let (token, lexer) ← b.lexer.peek
  set { b with lexer }
  return token

def skip : Build Unit :=
  modify fun b => { b with lexer := b.lexer.skip }

def atOneOf (tokens : List Token) : Build Bool := do
  return tokens.contains (← peek)

def expect (token : Token) : Build Unit := do
  if (← peek) == token then skip else throw .malformed

def anchorNext : Build (Option String) := do
  match ← peek with
  | .anchor name =>
    skip
    return some name
  | _ => return none

def tagNext : Build (Option TagName) := do
  match ← peek with
  | .tag name =>
    skip
    return some name
  | _ => return none

def tagText (name : TagName) : Build String := do
  match name.handle with
  | none => return name.suffix
  | some handle =>
    match (← get).handles.lookup handle with
    | some stem => return stem ++ name.suffix
    | none => throw .malformed

def properties : Build (Option String × Option String) := do
  match ← anchorNext with
  | some anchor =>
    let tag ← tagNext
    return (some anchor, ← tag.mapM tagText)
  | none =>
    match ← tagNext with
    | some tag =>
      let anchor ← anchorNext
      return (anchor, some (← tagText tag))
    | none => return (none, none)

def openNode (anchor : Option String) (node : Node) : Build Nat := do
  let b ← get
  if let some name := anchor then
    if (b.anchors.lookup name).isSome then throw .malformed
  set { b with
    nodes := b.nodes.push node
    anchors := anchor.toList.map (·, b.nodes.size) ++ b.anchors }
  return b.nodes.size

def closeNode (number : Nat) (node : Node) : Build Nat := do
  modify fun b => { b with
    nodes := b.nodes.setIfInBounds number node
    complete := number :: b.complete }
  return number

def leaf (anchor : Option String) (node : Node) : Build Nat := do
  closeNode (← openNode anchor node) node

def emptyNode : Build Nat :=
  leaf none .empty

def sequence (anchor : Option String) (tag : Tag) (items : Build (List Nat)) : Build Nat := do
  let number ← openNode anchor ⟨tag, .sequence []⟩
  closeNode number ⟨tag, .sequence (← items)⟩

def mapping (anchor : Option String) (tag : Tag) (entries : Build (List (Nat × Nat))) :
    Build Nat := do
  let number ← openNode anchor ⟨tag, .mapping []⟩
  closeNode number ⟨tag, .mapping (← entries)⟩

def aliasNode (name : String) : Build Nat := do
  match (← get).anchors.lookup name with
  | some number => return number
  | none => throw .malformed

/-- The tag of a node that has none, or only an exclamation mark, is chosen by its kind. -/
def chooseTag (tag : Option String) (standard : Tag) : Tag :=
  match tag with
  | none => standard
  | some "!" => standard
  | some text => .ofText text

def scalarTag (tag : Option String) (text : List Char) (plain : Bool) : Tag :=
  if plain || tag == some "!" then chooseTag tag (tagOfPlain text) else chooseTag tag .text

mutual
/-- A node. Only a node in a block can be a block itself, and only the value or key of a block
mapping can be a sequence that is not indented. -/
def node : Nat → Bool → Bool → Build Nat
  | 0, _, _ => throw .malformed
  | fuel + 1, inBlock, unindented => do
    match ← peek with
    | .reference name =>
      skip
      aliasNode name
    | _ =>
      let (anchor, tag) ← properties
      let next ← peek
      if unindented && next == .blockEntry then
        sequence anchor (chooseTag tag .sequence) (unindentedItems fuel)
      else
        match next with
        | .scalar text plain =>
          skip
          leaf anchor ⟨scalarTag tag text plain, .scalar text⟩
        | .flowSequenceStart =>
          skip
          sequence anchor (chooseTag tag .sequence) (flowItems fuel true)
        | .flowMappingStart =>
          skip
          mapping anchor (chooseTag tag .mapping) (flowEntries fuel true)
        | .blockSequenceStart =>
          if !inBlock then throw .malformed
          skip
          sequence anchor (chooseTag tag .sequence) (blockItems fuel)
        | .blockMappingStart =>
          if !inBlock then throw .malformed
          skip
          mapping anchor (chooseTag tag .mapping) (blockEntries fuel)
        | _ =>
          if anchor.isNone && tag.isNone then throw .malformed
          leaf anchor ⟨scalarTag tag [] tag.isNone, .scalar []⟩

def nodeBefore : Nat → List Token → Bool → Bool → Build Nat
  | 0, _, _, _ => throw .malformed
  | fuel + 1, followers, inBlock, unindented => do
    if ← atOneOf followers then emptyNode else node fuel inBlock unindented

def blockItems : Nat → Build (List Nat)
  | 0 => throw .malformed
  | fuel + 1 => do
    if (← peek) == .blockEntry then
      skip
      let item ← nodeBefore fuel [.blockEntry, .blockEnd] true false
      return item :: (← blockItems fuel)
    else
      expect .blockEnd
      return []

def unindentedItems : Nat → Build (List Nat)
  | 0 => throw .malformed
  | fuel + 1 => do
    if (← peek) == .blockEntry then
      skip
      let item ← nodeBefore fuel [.blockEntry, .key, .value, .blockEnd] true false
      return item :: (← unindentedItems fuel)
    else return []

def blockEntries : Nat → Build (List (Nat × Nat))
  | 0 => throw .malformed
  | fuel + 1 => do
    if (← peek) == .key then
      skip
      let key ← nodeBefore fuel [.key, .value, .blockEnd] true true
      let value ← blockValue fuel
      return (key, value) :: (← blockEntries fuel)
    else
      expect .blockEnd
      return []

def blockValue : Nat → Build Nat
  | 0 => throw .malformed
  | fuel + 1 => do
    if (← peek) == .value then
      skip
      nodeBefore fuel [.key, .value, .blockEnd] true true
    else emptyNode

/-- The items of a sequence in brackets. An item can be a mapping of one entry. -/
def flowItems : Nat → Bool → Build (List Nat)
  | 0, _ => throw .malformed
  | fuel + 1, first => do
    if (← peek) == .flowSequenceEnd then
      skip
      return []
    if !first then expect .flowEntry
    match ← peek with
    | .key =>
      skip
      let item ← mapping none .mapping do
        let key ← nodeBefore fuel [.value, .flowEntry, .flowSequenceEnd] false false
        return [(key, ← flowValue fuel .flowSequenceEnd)]
      return item :: (← flowItems fuel false)
    | .flowSequenceEnd =>
      skip
      return []
    | _ =>
      let item ← node fuel false false
      return item :: (← flowItems fuel false)

def flowEntries : Nat → Bool → Build (List (Nat × Nat))
  | 0, _ => throw .malformed
  | fuel + 1, first => do
    if (← peek) == .flowMappingEnd then
      skip
      return []
    if !first then expect .flowEntry
    match ← peek with
    | .key =>
      skip
      let key ← nodeBefore fuel [.value, .flowEntry, .flowMappingEnd] false false
      let value ← flowValue fuel .flowMappingEnd
      return (key, value) :: (← flowEntries fuel false)
    | .flowMappingEnd =>
      skip
      return []
    | _ =>
      let key ← node fuel false false
      let value ← emptyNode
      return (key, value) :: (← flowEntries fuel false)

def flowValue : Nat → Token → Build Nat
  | 0, _ => throw .malformed
  | fuel + 1, closing => do
    if (← peek) == .value then
      skip
      nodeBefore fuel [.flowEntry, closing] false false
    else emptyNode
end

end Build

end ContractScan.Yaml
