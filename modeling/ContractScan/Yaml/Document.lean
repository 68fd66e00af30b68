import ContractScan.Yaml.Node

/-! # Documents

A text holds at most one document: directives, a start marker and a node. The
marker can be left out when there are no directives.
-/

namespace ContractScan.Yaml

def standardHandles : List (String × String) := [("!", "!"), ("!!", Tag.stem)]

/-- The nodes of a text, with the number of the outermost one. Parts come before what they are
part of in `order`, unless they are part of themselves. -/
structure Document where
  nodes : Array Node
  order : List Nat
  root : Nat
  deriving Repr

namespace Build

/-- Directives before a document: one version at most, of the first major version, and every
handle once. -/
def directives : Nat → Bool → List (String × String) → Build (List (String × String))
  | 0, _, _ => throw .malformed
  | fuel + 1, versioned, handles => do
    match ← peek with
    | .directive (.version major _) =>
      skip
      if versioned || major != 1 then throw .malformed
      directives fuel true handles
    | .directive (.handle name stem) =>
      skip
      if (handles.lookup name).isSome then throw .malformed
      directives fuel versioned (handles ++ [(name, stem)])
    | .directive .other =>
      skip
      directives fuel versioned handles
    | _ => return handles

/-- The end of the text, after any number of end markers. Directives are still read before a
second document is refused. -/
def finish : Nat → Build Unit
  | 0 => throw .malformed
  | fuel + 1 => do
    match ← peek with
    | .streamEnd => return
    | .documentEnd =>
      skip
      finish fuel
    | _ =>
      let _ ← directives fuel false []
      throw .malformed

def markedNode (fuel : Nat) : Build Nat := do
  let handles ← directives fuel false []
  expect .documentStart
  modify fun b => { b with handles := handles ++ standardHandles }
  match ← peek with
  | .directive _ | .documentStart | .documentEnd | .streamEnd => emptyNode
  | _ => node fuel true false

def document (fuel : Nat) : Build (Option Nat) := do
  match ← peek with
  | .streamEnd => return none
  | .directive _ | .documentStart =>
    let root ← markedNode fuel
    finish fuel
    return some root
  | _ =>
    let root ← node fuel true false
    finish fuel
    return some root

end Build

def parse (text : List Char) : Except Fault (Option Document) := do
  let builder : Builder := { lexer := ← Lexer.start text, handles := standardHandles }
  let (root, after) ← (Build.document (8 * text.length + 8)).run builder
  return root.map fun root => { nodes := after.nodes, order := after.complete.reverse, root }

end ContractScan.Yaml
