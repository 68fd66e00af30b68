import ContractScan.Json.Reader
import ContractScan.Log
import ContractScan.Number.Shortest
import ContractScan.Schema.Issue
import ContractScan.Text.Blank

/-! # Running analyzers

External analyzers are programs that write a JSON report. How the program ran
is data here: given the outcome of a call, what follows from it is a function.
Failures are results, so that one missing analyzer never stops a scan.
-/

namespace ContractScan

inductive Seconds where
  | whole (n : Int)
  | real (x : Binary64)
  deriving DecidableEq, Repr

def Seconds.text : Seconds → String
  | .whole n => toString n
  | .real x => x.text

structure Invocation where
  arguments : List String
  directory : Option String := none
  limit : Option Seconds := none
  deriving DecidableEq, Repr

inductive Outcome where
  | exited (status : Int) (output : Option String) (errors : Option String)
  | timedOut
  | notLaunched (reason : String)
  deriving DecidableEq, Repr

/-- What the calls of programs lead to. A call that is refused before any program starts, because
of a zero character in an argument or a limit beyond all clocks, has no outcome. -/
abbrev Launcher := Invocation → Outcome

inductive FailureKind where
  | execution
  | parse
  deriving DecidableEq, Repr

inductive AnalyzerResult where
  | unavailable (tool : String)
  | failed (tool message : String) (kind : FailureKind)
  | report (tool : String) (payload : Value)
  deriving Repr

inductive AnalyzerError where
  | probeTimedOut
  | impossiblePath
  | integerTooLong
  /-- An entry was asked of something that is no mapping. -/
  | notMapping
  /-- Something was walked over, indexed, looked up or taken for a path that cannot be. -/
  | wrongKind
  | noSuchEntry
  | invalidFinding (issues : List Issue)
  deriving DecidableEq, Repr

/-- A computation with its calls and log records in order. -/
structure Traced (α : Type) where
  outcome : Except AnalyzerError α
  calls : List Invocation := []
  logs : List LogRecord := []

namespace Traced

variable {α β : Type}

def bind (x : Traced α) (f : α → Traced β) : Traced β :=
  match x.outcome with
  | .error e => { outcome := .error e, calls := x.calls, logs := x.logs }
  | .ok a =>
    let y := f a
    { outcome := y.outcome, calls := x.calls ++ y.calls, logs := x.logs ++ y.logs }

instance : Monad Traced where
  pure a := { outcome := .ok a }
  bind := Traced.bind

def log (level : LogLevel) (message : String) : Traced Unit :=
  { outcome := .ok (), logs := [⟨level, message⟩] }

def ofExcept (x : Except AnalyzerError α) : Traced α :=
  { outcome := x }

end Traced

def excerptLength : Nat := 200

/-- What an outcome means. A status other than zero is a failure only without output, since some
analyzers tell of findings that way. With `emptyOk` no output is an empty report. -/
def interpret (tool : String) (limit : Option Seconds) (emptyOk : Bool) :
    Outcome → Except AnalyzerError AnalyzerResult
  | .timedOut =>
    let seconds := (limit.map Seconds.text).getD "None"
    .ok (.failed tool s!"{tool} timed out after {seconds}s" .execution)
  | .notLaunched reason => .ok (.failed tool reason .execution)
  | .exited status output errors =>
    let output := output.getD ""
    if status != 0 && output.isEmpty then
      let said := Text.trimmed (errors.getD "")
      let message := if said.isEmpty then s!"{tool} exited with code {status}" else said
      .ok (.failed tool message .execution)
    else if emptyOk && (Text.trim output.toList).isEmpty then .ok (.report tool .null)
    else
      match Json.read output.toList with
      | .ok payload => .ok (.report tool payload)
      | .error .integerTooLong => .error .integerTooLong
      | .error .malformed =>
        let excerpt := String.ofList (output.toList.take excerptLength)
        .ok (.failed tool s!"Failed to parse {tool} output: {excerpt}" .parse)

def runAnalyzer (launch : Launcher) (tool : String) (call : Invocation) (emptyOk : Bool) :
    Traced AnalyzerResult :=
  { outcome := interpret tool call.limit emptyOk (launch call)
    calls := [call]
    logs := [⟨.debug, "Running " ++ tool ++ ": " ++ " ".intercalate call.arguments⟩] }

def probe (launch : Launcher) (arguments : List String) : Traced Bool :=
  let call : Invocation := { arguments }
  match launch call with
  | .exited status _ _ => { outcome := .ok (status == 0), calls := [call] }
  | .timedOut => { outcome := .error .probeTimedOut, calls := [call] }
  | .notLaunched reason =>
    let program := arguments.head?.getD ""
    { outcome := .ok false, calls := [call]
      logs := [⟨.debug, s!"Probe {program} failed to launch: {reason}"⟩] }

end ContractScan
