import ContractScan.Analyzer.Invocation
import ContractScan.Command.Arguments
import ContractScan.Report.Findings
import ContractScan.Report.Trace
import ContractScan.Scan.Basic

/-! # Sessions

Commands run one after another on a file tree. A run shows things on the
console, logs, calls analyzers and changes files; what it did before it stopped
stays done.
-/

namespace ContractScan

/-- What stops a command before it has an exit code of its own. -/
inductive CommandError where
  | usage (cause : UsageError)
  | badParameter (message : String)
  | file (cause : FileError)
  | ruleSet (cause : RuleSetError)
  | scan (cause : ScanError)
  | analyzer (cause : AnalyzerError)
  deriving DecidableEq, Repr

def CommandError.exitCode : CommandError → Nat
  | .usage _ | .badParameter _ => 2
  | _ => 1

inductive Ending where
  | exit (code : Nat)
  | error (cause : CommandError)
  deriving DecidableEq, Repr

def Ending.code : Ending → Nat
  | .exit code => code
  | .error cause => cause.exitCode

/-- What commands are run with: the analyzers, the time, and the reader of rule documents with
what is reported of a refused one. -/
structure Environment where
  launch : Launcher
  time : String
  read : DocumentReader
  report : ConfigError → String

def Environment.message (env : Environment) (cause : ConfigError) : String :=
  cause.message (env.report cause)

/-- What a run has done so far. -/
structure Progress where
  tree : FileTree
  trace : Trace := {}
  console : List ConsoleItem := []
  logs : List LogRecord := []
  calls : List Invocation := []

abbrev Action := ExceptT Ending (StateM Progress)

namespace Action

def stop {α : Type} (code : Nat) : Action α :=
  throw (.exit code)

def fail {α : Type} (cause : CommandError) : Action α :=
  throw (.error cause)

def orFail {ε α : Type} (cause : ε → CommandError) : Except ε α → Action α
  | .ok a => pure a
  | .error e => fail (cause e)

def tree : Action FileTree :=
  return (← get).tree

def say (item : ConsoleItem) : Action Unit :=
  modify fun p => { p with console := p.console ++ [item] }

def record (env : Environment) (event : String) (entries : List (String × Value)) : Action Unit :=
  modify fun p =>
    let entries := entries.map fun entry => (Value.str entry.1, entry.2)
    let (tree, trace) := p.trace.write p.tree (Trace.record env.time (.str event) entries)
    { p with tree, trace }

def logged {α : Type} (result : Logged α) : Action α := do
  modify fun p => { p with logs := p.logs ++ result.logs }
  return result.value

def traced {α : Type} (result : Traced α) : Action α := do
  modify fun p => { p with logs := p.logs ++ result.logs, calls := p.calls ++ result.calls }
  orFail .analyzer result.outcome

def edit {α : Type} (change : FileTree.Edit α) : Action α := do
  let p ← get
  let (result, tree) := change.run.run p.tree
  set { p with tree }
  orFail .file result

end Action

end ContractScan
