import ContractScan.FileTree.Basic
import ContractScan.Slither.Report
import ContractScan.Text.Occurrence

/-! # Running Slither

Slither runs once for a whole target. Whatever goes wrong with the tool itself
leaves no findings and a log record.
-/

namespace ContractScan.Slither

def program : String := "slither"

def defaultExcludes : List String :=
  ["node_modules", "lib", "test"]

def noContractsMark : String := "No contract found"

/-- A report that says of itself that it failed counts as a failure. -/
def checkSuccess : AnalyzerResult → AnalyzerResult
  | .report tool (.map entries) =>
    match Value.lookup entries "success" with
    | some (.bool false) =>
      let said := (Value.lookup entries "error").getD .null
      .failed tool (Shape.orElse said (.str "slither reported success=false")).text .execution
    | _ => .report tool (.map entries)
  | result => result

def invocation (tree : FileTree) (target : Path) (exclude : List String) : Invocation :=
  let target := target.resolve tree.base
  let directory := if tree.isDirectory target then target else target.parent
  { arguments := [program, target.text, "--json", "-"] ++
      exclude.flatMap fun fragment => ["--filter-paths", fragment]
    directory := some directory.text }

def analyze (tree : FileTree) (launch : Launcher) (target : Path) (exclude : List String) :
    Traced AnalyzerResult := do
  if !(← probe launch [program, "--version"]) then return .unavailable program
  if target.hasZero then Traced.ofExcept (.error .impossiblePath)
  let result ← runAnalyzer launch program (invocation tree target exclude) false
  return checkSuccess result

def run (tree : FileTree) (launch : Launcher) (target : Path)
    (exclude : List String := defaultExcludes) : Traced (List Finding) := do
  match ← analyze tree launch target exclude with
  | .unavailable _ =>
    Traced.log .info "[Slither] Not installed - skipping smart contract analysis"
    Traced.log .info "[Slither] Install with: pip install slither-analyzer"
    return []
  | .failed _ message kind =>
    if Text.occurs noContractsMark.toList message.toList then
      Traced.log .info "[Slither] No Solidity contracts found"
    else if kind == .parse then Traced.log .warning s!"[Slither] {message}"
    else Traced.log .warning s!"[Slither] Error: {message}"
    return []
  | .report _ payload =>
    let found ← Traced.ofExcept (findings payload)
    Traced.log .info s!"[Slither] Found {found.length} issue(s)"
    return found

end ContractScan.Slither
