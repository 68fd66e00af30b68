import ContractScan.Command.Arguments
import ContractScan.FileTree.Path
import ContractScan.Slither.Run

/-! # Commands

There are two commands: one scans contracts, the other lists rules.
-/

namespace ContractScan

structure ScanOptions where
  path : Path := .ofText "."
  exclude : List String := Slither.defaultExcludes
  /-- Ids of rules, with commas between them. -/
  rules : Option String := none
  rulesFile : Option Path := none
  slither : Bool := true
  mythril : Bool := false
  formats : List String := ["table"]
  out : Path := .ofText "artifacts/arcshield"
  failOnHigh : Bool := false
  debugLog : Option Path := none
  verbose : Bool := false
  deriving DecidableEq, Repr

structure RulesOptions where
  rulesFile : Option Path := none
  tools : Bool := false
  deriving DecidableEq, Repr

inductive Command where
  | scan (options : ScanOptions)
  | rules (options : RulesOptions)
  | help
  deriving DecidableEq, Repr

def helpOption : OptionSpec := { name := "--help" }

namespace ScanOptions

def specs : List OptionSpec :=
  [{ name := "--path", takesValue := true }, { name := "--exclude", takesValue := true },
    { name := "--rules", takesValue := true }, { name := "--rules-file", takesValue := true },
    { name := "--slither" }, { name := "--no-slither" }, { name := "--mythril" },
    { name := "--no-mythril" }, { name := "--format", takesValue := true },
    { name := "--out", takesValue := true }, { name := "--fail-on-high" },
    { name := "--debug-log", takesValue := true }, { name := "--verbose", short := some 'v' },
    helpOption]

def listOr (given default : List String) : List String :=
  if given.isEmpty then default else given

def ofGiven (g : Given) : ScanOptions :=
  let standard : ScanOptions := {}
  { path := ((g.last? "--path").map Path.ofText).getD standard.path
    exclude := listOr (g.values "--exclude") standard.exclude
    rules := g.last? "--rules"
    rulesFile := (g.last? "--rules-file").map Path.ofText
    slither := g.switch "--slither" "--no-slither" standard.slither
    mythril := g.switch "--mythril" "--no-mythril" standard.mythril
    formats := listOr (g.values "--format") standard.formats
    out := ((g.last? "--out").map Path.ofText).getD standard.out
    failOnHigh := g.has "--fail-on-high"
    debugLog := (g.last? "--debug-log").map Path.ofText
    verbose := g.has "--verbose" }

end ScanOptions

namespace RulesOptions

def specs : List OptionSpec :=
  [{ name := "--rules-file", takesValue := true }, { name := "--tools" }, helpOption]

def ofGiven (g : Given) : RulesOptions :=
  { rulesFile := (g.last? "--rules-file").map Path.ofText, tools := g.has "--tools" }

end RulesOptions

namespace Command

/-- The arguments of one command. Help is given before too many arguments are found. -/
def parseWith (specs : List OptionSpec) (build : Given → Command) (args : List String) :
    Except UsageError Command := do
  let g ← readArguments specs true args {}
  if g.has helpOption.name then return .help
  if g.others.isEmpty then return build g else throw .misused

/-- A command by its name. An unknown one that looks like an option is read as one. -/
def ofName (name : String) (args : List String) : Except UsageError Command :=
  if name == "scan" then parseWith ScanOptions.specs (.scan ∘ .ofGiven) args
  else if name == "rules" then parseWith RulesOptions.specs (.rules ∘ .ofGiven) args
  else do
    let g ← readArguments [helpOption] false (name :: args) {}
    if g.has helpOption.name then return .help else throw .misused

def parse (args : List String) : Except UsageError Command := do
  let g ← readArguments [helpOption] false args {}
  if g.has helpOption.name then return .help
  match g.others with
  | [] => throw .misused
  | name :: rest => ofName name rest

end Command

end ContractScan
