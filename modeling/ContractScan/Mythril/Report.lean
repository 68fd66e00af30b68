import ContractScan.Analyzer.Shape
import ContractScan.FileTree.Path
import ContractScan.Mythril.Swc
import ContractScan.Number.Ordinal

/-! # Mythril's issues

Every issue of a report becomes a finding; its file is named from the root of
the scan.
-/

namespace ContractScan.Mythril

open Shape

def severities : List (String × String) :=
  [("High", "high"), ("Medium", "medium"), ("Low", "low")]

def defaultSeverity : String := "medium"

def fallbackName : String := "Unknown Vulnerability"

def fallbackRemediation : String :=
  "Review the code and apply secure coding practices."

/-- A file name seen from a root: a relative one as it is, an absolute one by the way to it. -/
def relativePath (root : Path) (filename : String) : String :=
  let candidate := Path.ofText filename
  if !candidate.isAbsolute then candidate.text
  else
    match candidate.below? root with
    | some names => (Path.mk .relative names).text
    | none => (candidate.wayFrom root).text

def filePath (root : Path) (filename : Value) : Except AnalyzerError String :=
  if !filename.truthy then .ok "Unknown"
  else
    match filename with
    | .str s => .ok (relativePath root s)
    | _ => .error .wrongKind

/-- The id under either of its two keys; the first key counts if it is there. -/
def issueId (issue : Value) : Except AnalyzerError String := do
  let second ← entry issue "swcID"
  match issue with
  | .map entries => return swcId ((Value.lookup entries "swc-id").getD second)
  | _ => return swcId second

def finding (issue : Value) (ordinal : Int) (root : Path) : Except AnalyzerError Finding := do
  let id ← issueId issue
  let title := orElse (← entry issue "title") (orElse (← entry issue "swcTitle") (.str ""))
  let (name, remediation) : Value × String := match weaknesses.lookup id with
    | some w => (.str w.name, w.remediation)
    | none => (orElse title (.str fallbackName), fallbackRemediation)
  let path ← filePath root (← entry issue "filename")
  let line := orElse (← entry issue "lineno") (.int 1)
  let sequence ← entry issue "tx_sequence"
  let address ← entry issue "address"
  let exploitability :=
    if sequence.truthy then "Attack sequence: " ++ sequence.text
    else "Detected at address " ++ address.text
  let severity ← label severities defaultSeverity (← entry issue "severity")
  let description := orElse (← entry issue "description") (.str s!"{title.text} detected")
  let snippet := orElse (← entry issue "code") (.str "")
  let contract := orElse (← entry issue "contract") (.str "Unknown")
  let function := orElse (← entry issue "function") .null
  let prompt := s!"Fix the {name.text} vulnerability ({id}) in {path}:{line.text}. {remediation}"
  Shape.finding [("id", .str (numberedId "MYTH" ordinal)), ("title", name),
    ("severity", .str severity), ("description", description), ("file_path", .str path),
    ("line_number", line), ("code_snippet", snippet), ("exploitability", .str exploitability),
    ("remediation", .str remediation), ("fix_prompt", .str prompt), ("contract_name", contract),
    ("function_name", function), ("detector", .str id), ("tool", .str Tool.mythril.word)]

def findingsFrom (root : Path) : Int → List Value → Except AnalyzerError (List Finding)
  | _, [] => .ok []
  | ordinal, issue :: rest => do
    let f ← finding issue ordinal root
    return f :: (← findingsFrom root (ordinal + 1) rest)

/-- The issues of a report; one that is no mapping has none. -/
def issues (payload : Value) : Except AnalyzerError (List Value) := do
  if isMapping payload then elementsIfAny (← entry payload "issues") else return []

end ContractScan.Mythril
