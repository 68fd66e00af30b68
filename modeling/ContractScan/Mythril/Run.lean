import ContractScan.FileTree.Discovery
import ContractScan.Mythril.Report
import ContractScan.Text.Occurrence

/-! # Running Mythril

Mythril runs once for every Solidity file. A failure on one file is logged and
leaves the others alone.
-/

namespace ContractScan.Mythril

def program : String := "myth"

/-- Seconds that the process may take beyond Mythril's own limit. -/
def graceSeconds : Int := 60

structure Settings where
  timeout : Int := 300
  maxDepth : Int := 22
  compiler : Option String := none
  deriving DecidableEq, Repr

def noIssuesMark : String := "No issues"

def invocation (settings : Settings) (base file : Path) : Invocation :=
  let compiler := match settings.compiler with
    | none => []
    | some version => if version.isEmpty then [] else ["--solv", version]
  { arguments := [program, "analyze", file.text, "-o", "json", "--execution-timeout",
      toString settings.timeout, "--max-depth", toString settings.maxDepth] ++ compiler
    directory := some base.text
    limit := some (.whole (settings.timeout + graceSeconds)) }

def runFile (launch : Launcher) (settings : Settings) (base file : Path) (ordinal : Nat) :
    Traced (List Finding) := do
  match ← runAnalyzer launch "mythril" (invocation settings base file) true with
  | .failed _ message _ =>
    if !Text.occurs noIssuesMark.toList message.toList then
      Traced.log .warning s!"[Mythril] Warning: {file.name} - {message}"
    return []
  | .unavailable _ => return []
  | .report _ payload =>
    Traced.ofExcept do findingsFrom base ordinal (← issues payload)

def runFiles (launch : Launcher) (settings : Settings) (base : Path) :
    Nat → List Path → Traced (List Finding)
  | _, [] => pure []
  | ordinal, file :: rest => do
    let found ← runFile launch settings base file ordinal
    let more ← runFiles launch settings base (ordinal + found.length) rest
    return found ++ more

def run (tree : FileTree) (launch : Launcher) (target : Path) (settings : Settings := {}) :
    Traced (List Finding) := do
  if !(← probe launch [program, "version"]) then
    Traced.log .info "[Mythril] Not installed - skipping symbolic execution"
    Traced.log .info "[Mythril] Install with: pip install mythril"
    return []
  if target.hasZero then Traced.ofExcept (.error .impossiblePath)
  let root := target.resolve tree.base
  let files := tree.contractFiles root
  if files.isEmpty then
    Traced.log .info "[Mythril] No Solidity files found"
    return []
  let base := if tree.isDirectory root then root else root.parent
  Traced.log .info s!"[Mythril] Analyzing {files.length} contract(s)..."
  let found ← runFiles launch settings base 1 files
  Traced.log .info s!"[Mythril] Found {found.length} issue(s)"
  return found

end ContractScan.Mythril
