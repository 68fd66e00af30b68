import ContractScan.Command.Scan

/-! # The command that lists rules -/

namespace ContractScan

def ruleRow (rule : Rule) : List String :=
  let orDash (s : Option String) : String := (s.filter (!·.isEmpty)).getD "-"
  [rule.id, Report.styled rule.severity, rule.name, orDash rule.cweId, orDash rule.predicate]

def rulesTable (ruleSet : RuleSet) : Table where
  title := s!"{ruleSet.name} rules (v{ruleSet.version})"
  columns := ["ID", "Severity", "Name", "CWE", "Gate"]
  rows := ruleSet.rules.map ruleRow

def rulesCommand (env : Environment) (options : RulesOptions) : Action Unit := do
  match ← Action.logged (chooseRules env.read (← Action.tree) options.rulesFile []) with
  | .error (.config cause) =>
    Action.say (.print (configNotice (env.message cause)))
    Action.stop 2
  | .error cause => Action.fail (.ruleSet cause)
  | .ok ruleSet =>
    Action.say (.table (rulesTable ruleSet))
    if options.tools then
      Action.say (.print ("Slither detectors: " ++ ", ".intercalate Slither.knownDetectors))
      Action.say (.print ("Mythril SWC ids: " ++ ", ".intercalate Mythril.knownIds))

end ContractScan
