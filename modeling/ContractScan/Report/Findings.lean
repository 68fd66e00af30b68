import ContractScan.FileTree.Basic
import ContractScan.Finding.Basic
import ContractScan.Json.Printer
import ContractScan.Report.Console
import ContractScan.Text.LetterCase

/-! # Reports of findings

Findings are written as lines of JSON, one record a line in the order of the
findings, or shown as a table from the most severe to the least.
-/

namespace ContractScan.Report

inductive Format where
  | json
  | table
  deriving DecidableEq, Repr

def Format.word : Format → String
  | .json => "json"
  | .table => "table"

def Format.ofWord? (word : String) : Option Format :=
  [Format.json, .table].find? (·.word == word)

structure UnsupportedFormat where
  value : String
  deriving DecidableEq, Repr

def UnsupportedFormat.message (e : UnsupportedFormat) : String :=
  let known := Text.quotedList ["json", "table"]
  "Unsupported format '" ++ e.value ++ "'. Choose from " ++ known

/-- The formats asked for, each once, in any letter case; a table when none is. -/
def formats (values : List String) : Except UnsupportedFormat (List Format) := do
  if values.isEmpty then return [.table]
  let named ← values.mapM fun value =>
    match Format.ofWord? (String.ofList (Text.lowerText value.toList)) with
    | some format => .ok format
    | none => .error ⟨value⟩
  return named.eraseDups

def record (scanRoot : String) (f : Finding) : Value :=
  .record [("finding", f.toValue), ("scan_root", .str scanRoot)]

def jsonLine (value : Value) : String :=
  Json.print value ++ "\n"

def jsonLines (scanRoot : String) (findings : List Finding) : String :=
  String.join (findings.map fun f => jsonLine (record scanRoot f))

def writeJsonLines (path : Path) (scanRoot : String) (findings : List Finding) :
    FileTree.Edit Nat := do
  FileTree.ensureParent path
  FileTree.edit (·.write path (jsonLines scanRoot findings))
  return findings.length

/-- Where the records go: into a directory, or beside a file with a suffix of its own. A name that
is not there yet and has no suffix is a directory. -/
def jsonPath (tree : FileTree) (out : Path) : Path :=
  if tree.isDirectory out || (!tree.pathExists out && out.suffix == "") then
    out.child "arcshield.jsonl"
  else out.withSuffix ".jsonl"

def style : Severity → String
  | .critical => "bold red"
  | .high => "red"
  | .medium => "yellow"
  | .low => "cyan"
  | .info => "dim"

def styled (s : Severity) : String :=
  s!"[{style s}]{s.word}[/]"

/-- The order of a table: by severity, then by file, then by line. -/
def inTableOrder (a b : Finding) : Bool :=
  if a.severity.rank != b.severity.rank then a.severity.rank < b.severity.rank
  else if a.filePath != b.filePath then decide (a.filePath < b.filePath)
  else a.lineNumber ≤ b.lineNumber

def scope (f : Finding) : String :=
  let nonEmpty (s : Option String) : Option String := s.filter (!·.isEmpty)
  let contract := (nonEmpty f.contractName).getD "-"
  match nonEmpty f.functionName with
  | some function => contract ++ "." ++ function
  | none => contract

def row (f : Finding) : List String :=
  [f.id, styled f.severity, f.title, s!"{f.filePath}:{f.lineNumber}", scope f, f.tool.word]

def table (findings : List Finding) : Table where
  title := "arcshield findings"
  columns := ["ID", "Severity", "Title", "Location", "Contract", "Tool"]
  rows := (findings.mergeSort inTableOrder).map row

structure Exported where
  records : Option Path
  shown : List ConsoleItem
  deriving DecidableEq, Repr

def publish (formats : List Format) (out scanRoot : Path) (findings : List Finding) :
    FileTree.Edit Exported := do
  let records ←
    if formats.contains .json then do
      let path := jsonPath (← get) out
      let _ ← writeJsonLines path scanRoot.text findings
      pure (some path)
    else pure none
  let shown := if formats.contains .table then [.table (table findings)] else []
  return { records, shown }

/-- The findings that make a scan fail: all, or only those of the two highest severities. -/
def blocking (failOnHigh : Bool) (findings : List Finding) : List Finding :=
  if failOnHigh then findings.filter (·.severity.rank ≤ Severity.high.rank) else findings

end ContractScan.Report
