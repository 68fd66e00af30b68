import ContractScan.Command.Rules

/-! # Running commands -/

namespace ContractScan

/-- What stays from one command to the next: the files, and how much is logged. -/
structure Session where
  tree : FileTree
  level : LogLevel := .warning

structure CommandResult where
  ending : Ending
  console : List ConsoleItem
  logs : List LogRecord
  calls : List Invocation

namespace Session

/-- A scan sets what is logged from then on. -/
def levelFor (session : Session) : Command → LogLevel
  | .scan options => if options.verbose then .debug else .info
  | _ => session.level

def action (env : Environment) : Command → Action Unit
  | .scan options => scanCommand env options
  | .rules options => rulesCommand env options
  | .help => pure ()

/-- Runs a command. Records below the level are not logged. -/
def perform (session : Session) (env : Environment) (command : Command) :
    CommandResult × Session :=
  let level := session.levelFor command
  let (result, progress) := (action env command).run.run { tree := session.tree }
  let ending := match result with
    | .ok () => .exit 0
    | .error ending => ending
  ({ ending
     console := progress.console
     logs := progress.logs.filter fun record => level.rank ≤ record.level.rank
     calls := progress.calls },
    { tree := progress.tree, level })

def run (session : Session) (env : Environment) (args : List String) : CommandResult × Session :=
  match Command.parse args with
  | .error cause =>
    ({ ending := .error (.usage cause), console := [], logs := [], calls := [] }, session)
  | .ok command => session.perform env command

end Session

end ContractScan
