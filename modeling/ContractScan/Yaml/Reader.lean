import ContractScan.Text.Base64
import ContractScan.Yaml.Document
import ContractScan.Yaml.Number

/-! # Values of documents

Scalars are given their values as they are met. Collections are empty at first
and wait in a queue for the values of their parts, so that a collection can be
a part of itself. The entries of a merged mapping come before those of the
mapping it is merged into, whose values win. Of several entries with one key the
last value counts, at the place of the first.
-/

namespace ContractScan.Yaml

def truthValue (text : List Char) : Except Fault Value :=
  match truthWords.lookup (String.ofList (text.map Char.toLower)) with
  | some b => .ok (.bool b)
  | none => .error .unknownTruth

def binaryValue (text : List Char) : Except Fault Value :=
  if !text.all (·.toNat < 128) then .error .malformed
  else
    match Text.base64? text with
    | some octets => .ok (.bytes octets)
    | none => .error .malformed

def scalarValue (tag : Tag) (text : List Char) : Except Fault Value :=
  match tag with
  | .null => .ok .null
  | .truth => truthValue text
  | .integer => (integerValue text).map .int
  | .real => (realValue text).map .float
  | .binary => binaryValue text
  | .moment => momentValue text
  | .text => .ok (.str (String.ofList text))
  | _ => .error .malformed

def emptyCollection? : Tag → Option Value
  | .sequence | .pairs => some (.list [])
  | .mapping => some (.map [])
  | .set => some (.set [])
  | _ => none

/-- A document whose nodes are being given values: the nodes, the values so far, and the
collections that wait for their parts. -/
structure Construction where
  nodes : Array Node
  values : Array (Option Value)
  waiting : List Nat := []
  deriving Repr

namespace Construction

def node (c : Construction) (number : Nat) : Node :=
  c.nodes.getD number .empty

def tag (c : Construction) (number : Nat) : Tag :=
  (c.node number).tag

def entries (c : Construction) (number : Nat) : List (Nat × Nat) :=
  match (c.node number).content with
  | .mapping entries => entries
  | _ => []

def setEntries (c : Construction) (number : Nat) (entries : List (Nat × Nat)) : Construction :=
  let node := { c.node number with content := .mapping entries }
  { c with nodes := c.nodes.setIfInBounds number node }

def setTag (c : Construction) (number : Nat) (tag : Tag) : Construction :=
  { c with nodes := c.nodes.setIfInBounds number { c.node number with tag } }

def setValue (c : Construction) (number : Nat) (value : Value) : Construction :=
  { c with values := c.values.setIfInBounds number (some value) }

/-- The text of a node that is to be read as a scalar: its own, or that of the value which stands
for the whole mapping. -/
def scalarText (c : Construction) : Nat → Nat → Except Fault (List Char)
  | 0, _ => .error .endless
  | fuel + 1, number =>
    match (c.node number).content with
    | .scalar text => .ok text
    | .sequence _ => .error .malformed
    | .mapping entries =>
      match entries.find? fun (key, _) => c.tag key == .whole with
      | some (_, value) => c.scalarText fuel value
      | none => .error .malformed

def scalar (c : Construction) (number : Nat) : Except Fault Value := do
  let node := c.node number
  if node.tag ∈ [.merge, .whole, .other] then throw .malformed
  let text ← c.scalarText (c.nodes.size + 1) number
  match node.tag, node.content with
  | .moment, .mapping _ => throw .notText
  | tag, _ => scalarValue tag text

end Construction

abbrev Construct := StateT Construction (Except Fault)

namespace Construct

/-- The value of a node, which is empty as yet if it is a collection. -/
def value (number : Nat) : Construct Value := do
  let c ← get
  match c.values.getD number none with
  | some value => return value
  | none =>
    match emptyCollection? (c.tag number) with
    | some value =>
      set { c.setValue number value with waiting := c.waiting ++ [number] }
      return value
    | none =>
      let value ← c.scalar number
      set (c.setValue number value)
      return value

def takeMerged (number : Nat) : Construct (Option Nat) := do
  let c ← get
  let entries := c.entries number
  match entries.findIdx? fun (key, _) => c.tag key == .merge with
  | some index =>
    set (c.setEntries number (entries.eraseIdx index))
    return entries[index]?.map (·.2)
  | none => return none

def mergedEntries (flatten : Nat → Construct Unit) (number : Nat) :
    Construct (List (Nat × Nat)) := do
  match ((← get).node number).content with
  | .mapping _ =>
    flatten number
    return (← get).entries number
  | .sequence items =>
    items.foldlM (fun entries item => do
      match ((← get).node item).content with
      | .mapping _ =>
        flatten item
        return (← get).entries item ++ entries
      | _ => throw .malformed) []
  | .scalar _ => throw .malformed

/-- Puts the entries of merged mappings in front of a mapping's own. The sign for the whole mapping
becomes a text where it is a key. The first argument bounds the number of merged values. -/
def flatten : Nat → Nat → Construct Unit
  | 0, _ => throw .malformed
  | fuel + 1, number => do
    match ← takeMerged number with
    | some merged =>
      let merged ← mergedEntries (flatten fuel) merged
      flatten fuel number
      modify fun c => c.setEntries number (merged ++ c.entries number)
    | none =>
      modify fun c => (c.entries number).foldl (fun c (key, _) =>
        if c.tag key == .whole then c.setTag key .text else c) c

def entry (key item : Nat) : Construct Unit := do
  if !(← value key).isKey then throw .malformed
  let _ ← value item

def pair (number : Nat) : Construct Unit := do
  match ((← get).node number).content with
  | .mapping [(key, item)] =>
    let _ ← value key
    let _ ← value item
  | _ => throw .malformed

def parts (number : Nat) : Construct Unit := do
  let c ← get
  match c.tag number, (c.node number).content with
  | .sequence, .sequence items => items.forM fun item => discard (value item)
  | .pairs, .sequence items => items.forM pair
  | .mapping, .mapping _ | .set, .mapping _ =>
    let bound := c.nodes.foldl (fun count node => match node.content with
      | .mapping entries => count + entries.length
      | _ => count) 1
    flatten bound number
    ((← get).entries number).forM fun (key, item) => entry key item
  | _, _ => throw .malformed

/-- Gives the parts of all collections their values, first come first served. -/
def allParts : Nat → Construct Unit
  | 0 => pure ()
  | fuel + 1 => do
    match (← get).waiting with
    | [] => pure ()
    | number :: waiting =>
      modify ({ · with waiting })
      parts number
      allParts fuel

end Construct

namespace Construction

def valueOf (c : Construction) (number : Nat) : Value :=
  (c.values.getD number none).getD .null

def withParts (c : Construction) (number : Nat) : Value :=
  let node := c.node number
  let pairs (entries : List (Nat × Nat)) : List (Value × Value) :=
    entries.map fun (key, item) => (c.valueOf key, c.valueOf item)
  match node.tag, node.content with
  | .sequence, .sequence items => .list (items.map c.valueOf)
  | .pairs, .sequence items =>
    .list ((items.flatMap c.entries).map fun (key, item) => .list [c.valueOf key, c.valueOf item])
  | .mapping, .mapping entries => .map (Value.ofPairs (pairs entries))
  | .set, .mapping entries => .set ((Value.ofPairs (pairs entries)).map (·.1))
  | _, _ => c.valueOf number

def filled (c : Construction) (order : List Nat) : Construction :=
  order.foldl (fun c number => c.setValue number (c.withParts number)) c

end Construction

/-- How often a part of itself is written out. -/
def unfolding : Nat := 5

def Document.value (document : Document) : Except Fault Value := do
  let start : Construction := {
    nodes := document.nodes
    values := .replicate document.nodes.size none }
  let (_, c) ← (do
    let _ ← Construct.value document.root
    Construct.allParts (document.nodes.size + 1) : Construct Unit).run start
  return (Nat.repeat (·.filled document.order) unfolding c).valueOf document.root

def read (text : List Char) : Except Fault Value := do
  match ← parse text with
  | none => return .null
  | some document => document.value

end ContractScan.Yaml
