import ContractScan.Command.Basic
import ContractScan.Command.Session
import ContractScan.FileTree.Discovery
import ContractScan.Mythril.Run
import ContractScan.Rule.Load

/-! # The scan command

A scan first makes sure of its target, its formats and its rules. Then the rules
and the analyzers report their findings one after another, and all findings
together are published and decide the exit code.
-/

namespace ContractScan

/-- The rule set of a file, or the built-in one, cut down to the ids asked for. -/
def chooseRules (read : DocumentReader) (tree : FileTree) (file : Option Path)
    (ids : List String) : Logged (Except RuleSetError RuleSet) :=
  let loaded := match file with
    | some path => RuleSet.load read .builtin tree path
    | none => ⟨.ok .arc, []⟩
  let chosen := loaded.value.bind fun ruleSet =>
    if ids.isEmpty then .ok ruleSet else (ruleSet.select ids).mapError .config
  { loaded with value := chosen }

def configNotice (message : String) : String :=
  "[red]Invalid rule configuration: " ++ Markup.escape message ++ "[/]"

structure ScanPlan where
  formats : List Report.Format
  ruleSet : RuleSet
  deriving Repr

namespace ScanPlan

def rules (options : ScanOptions) : List String :=
  (RuleSet.listedIds ((options.rules.getD "").toList)).map String.ofList

/-- Checks the target, then the formats, then the rules. -/
def make (env : Environment) (options : ScanOptions) : Action ScanPlan := do
  let tree ← Action.tree
  if !tree.pathExists options.path then
    Action.fail (.badParameter s!"Scan target not found: {options.path.text}")
  let formats ← Action.orFail (fun e => .badParameter e.message) (Report.formats options.formats)
  match ← Action.logged (chooseRules env.read tree options.rulesFile (rules options)) with
  | .ok ruleSet => return { formats, ruleSet }
  | .error (.config cause) =>
    Action.say (.print (configNotice (env.message cause)))
    Action.record env "error" [("stage", .str "rules"), ("message", .str (env.message cause))]
    Action.stop 2
  | .error cause => Action.fail (.ruleSet cause)

end ScanPlan

structure ScanFindings where
  arc : List Finding
  slither : List Finding
  mythril : List Finding
  deriving Repr

def ScanFindings.all (f : ScanFindings) : List Finding :=
  f.arc ++ f.slither ++ f.mythril

def truthWord (b : Bool) : String :=
  (Value.bool b).text

def texts (items : List String) : Value :=
  .list (items.map .str)

def findingEntries (findings : List Finding) : List (String × Value) :=
  [("count", .int findings.length), ("findings", .list (findings.map Finding.toValue))]

def announce (env : Environment) (options : ScanOptions) (plan : ScanPlan) : Action Unit := do
  let path := options.path.text
  let ids := plan.ruleSet.ids
  let formats := plan.formats.map Report.Format.word
  Action.say (.log ("Starting scan: path=" ++ path ++ " rules=" ++ Text.quotedList ids
    ++ " slither=" ++ truthWord options.slither ++ " mythril=" ++ truthWord options.mythril
    ++ " formats=" ++ Text.quotedList formats))
  Action.record env "start" [("path", .str path), ("rules", texts ids),
    ("exclude", texts options.exclude), ("slither", .bool options.slither),
    ("mythril", .bool options.mythril), ("formats", texts formats)]

def arcFindings (env : Environment) (options : ScanOptions) (ruleSet : RuleSet) :
    Action (List Finding) := do
  let sources ← Action.logged ((← Action.tree).collectSources options.path options.exclude)
  let findings ← Action.orFail .scan (← Action.logged (scanArc sources ruleSet))
  Action.record env "arc_findings" (("files", .int sources.length) :: findingEntries findings)
  return findings

def analyzerFindings (env : Environment) (wanted : Bool) (event : String)
    (run : FileTree → Traced (List Finding)) : Action (List Finding) := do
  if !wanted then return []
  let findings ← Action.traced (run (← Action.tree))
  Action.record env event (findingEntries findings)
  return findings

def gather (env : Environment) (options : ScanOptions) (ruleSet : RuleSet) :
    Action ScanFindings := do
  let arc ← arcFindings env options ruleSet
  let slither ← analyzerFindings env options.slither "slither_findings" fun tree =>
    Slither.run tree env.launch options.path options.exclude
  let mythril ← analyzerFindings env options.mythril "mythril_findings" fun tree =>
    Mythril.run tree env.launch options.path
  return { arc, slither, mythril }

def publish (env : Environment) (options : ScanOptions) (plan : ScanPlan) (found : ScanFindings) :
    Action Unit := do
  Action.say (.log (s!"Scan complete: {found.all.length} issues (arc={found.arc.length}, "
    ++ s!"slither={found.slither.length}, mythril={found.mythril.length})"))
  let exported ← Action.edit (Report.publish plan.formats options.out options.path found.all)
  exported.shown.forM Action.say
  let paths := exported.records.toList.map fun path => ("json", Value.str path.text)
  Action.record env "exports" [("paths", .record paths)]

/-- Ends the scan: the code tells whether there are blocking findings. -/
def conclude (env : Environment) (options : ScanOptions) (found : ScanFindings) : Action Unit := do
  let blocking := (Report.blocking options.failOnHigh found.all).length
  Action.record env "blocking_summary"
    [("blocking", .int blocking), ("fail_on_high", .bool options.failOnHigh)]
  let code : Nat := if blocking == 0 then 0 else 1
  Action.say (.print (if blocking == 0 then "[green]No blocking findings identified[/]"
    else s!"[red]{blocking} blocking finding(s) detected[/]"))
  Action.record env "exit" [("code", .int code), ("blocking", .int blocking)]
  Action.stop code

def scanCommand (env : Environment) (options : ScanOptions) : Action Unit := do
  let trace ← Action.edit (Trace.start options.debugLog)
  modify fun p => { p with trace }
  let plan ← ScanPlan.make env options
  announce env options plan
  let found ← gather env options plan.ruleSet
  publish env options plan found
  conclude env options found

end ContractScan
