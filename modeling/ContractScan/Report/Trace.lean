import ContractScan.FileTree.Basic
import ContractScan.Json.Printer

/-! # Traces

A trace is a file of JSON records, one for every event of a run. A record
starts with the time and the event; further entries may replace these.
-/

namespace ContractScan

inductive TraceError where
  /-- What should be entries cannot be taken apart into keys and values. -/
  | wrongKind
  /-- A part that should be a key and a value has another length. -/
  | wrongLength
  /-- A further entry has a name that is taken. -/
  | reserved
  deriving DecidableEq, Repr

/-- A trace that is written to a file, or one that is switched off. -/
structure Trace where
  file : Option FileTree.OpenFile := none
  deriving DecidableEq, Repr

namespace Trace

def isOn (trace : Trace) : Bool :=
  trace.file.isSome

def start (path : Option Path) : FileTree.Edit Trace := do
  match path with
  | none => return {}
  | some path => return { file := some (← FileTree.openNew path) }

def elementsOf : Value → Except TraceError (List Value)
  | .list items => .ok items
  | .str s => .ok (s.toList.map fun c => .str c.toString)
  | .map entries => .ok (entries.map (·.1))
  | _ => .error .wrongKind

def pairOf (part : Value) : Except TraceError (Value × Value) := do
  match ← elementsOf part with
  | [key, value] => if key.isKey then .ok (key, value) else .error .wrongKind
  | _ => .error .wrongLength

/-- The entries of a payload: those of a mapping, or pairs one after another. -/
def entriesOf (payload : Value) : Except TraceError (List (Value × Value)) := do
  if !payload.truthy then return []
  match payload with
  | .map entries => return entries
  | _ => (← elementsOf payload).mapM pairOf

def record (time : String) (event : Value) (entries : List (Value × Value)) : Value :=
  let first := [(.str "timestamp", .str time), (.str "event", event)]
  .map (entries.foldl (fun done entry => Value.put done entry.1 entry.2) first)

def write (trace : Trace) (tree : FileTree) (value : Value) : FileTree × Trace :=
  match trace.file with
  | none => (tree, trace)
  | some file =>
    let (tree, file) := tree.writeNext file (Json.print value ++ "\n")
    (tree, { file := some file })

def reservedNames : List String := ["self", "event", "payload"]

def log (trace : Trace) (tree : FileTree) (time : String) (event payload : Value)
    (extra : List (Value × Value)) : Except TraceError (FileTree × Trace) := do
  if reservedNames.any fun name => (Value.lookup extra name).isSome then throw .reserved
  if !trace.isOn then return (tree, trace)
  return trace.write tree (record time event ((← entriesOf payload) ++ extra))

def close (_trace : Trace) : Trace := {}

end Trace

end ContractScan
