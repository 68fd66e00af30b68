import ContractScan.Number.Ordinal
import ContractScan.Rule.Arc
import ContractScan.Source.Context

/-! # Scanning files with rules

Findings come in the order of the files, then of the rules, then of the
matches, and are numbered from one in that order.
-/

namespace ContractScan

/-- What a rule set is applied to and how its findings are named. -/
structure Family where
  name : String
  extension : String
  idPrefix : String
  tool : String := "arcshield"
  chainSpecific : Bool := true
  deriving DecidableEq, Repr

def Family.findingId (family : Family) (ordinal : Nat) : String :=
  numberedId family.idPrefix ordinal

def Family.arc : Family where
  name := "Arc"
  extension := ".sol"
  idPrefix := "ARC"

inductive ScanError where
  | badPattern (cause : Pattern.Error)
  | unknownPredicate (cause : RegistryError)
  | invalidFinding (issues : List Issue)
  deriving DecidableEq, Repr

/-- The matches of a rule in a text, from left to right; none if the rule does not apply. -/
def Rule.matchesIn (registry : Registry) (rule : Rule) (text : List Char) :
    Except ScanError (List Pattern.Found) :=
  match rule.appliesTo registry text with
  | .error cause => .error (.unknownPredicate cause)
  | .ok false => .ok []
  | .ok true =>
    match rule.matcher with
    | .error cause => .error (.badPattern cause)
    | .ok node => .ok (Pattern.findAll node text)

def Family.finding (family : Family) (tool : Tool) (rule : Rule) (path : String)
    (context : Source.Context) (matched id : String) : Finding where
  id := id
  title := rule.name
  severity := rule.severity
  description := rule.description
  filePath := path
  lineNumber := context.lineNumber
  codeSnippet := String.ofList context.snippet
  cweId := rule.cweId
  exploitability := "Pattern match: " ++ matched
  remediation := rule.recommendation
  fixPrompt := s!"Fix the {family.name}-specific vulnerability \"{rule.name}\" " ++
    s!"at line {context.lineNumber} in {path}"
  contractName := some context.contractName
  functionName := context.functionName
  detector := rule.id
  tool := tool
  arcSpecific := family.chainSpecific
  arcRule := if family.chainSpecific then some rule.id else none
  lineNumber_pos := context.lineNumber_pos

/-- The finding for a match. The family's tool is checked with each of them. -/
def buildFinding (family : Family) (rule : Rule) (path : String) (context : Source.Context)
    (matched id : String) : Except ScanError Finding :=
  match (Tool.ofWord family.tool).under (.field "tool") with
  | .issues first rest => .error (.invalidFinding (first :: rest))
  | .ok tool => .ok (family.finding tool rule path context matched id)

def addMatch (family : Family) (path : String) (index : Source.Index) (firstOrdinal : Nat)
    (rule : Rule) (findings : List Finding) (m : Pattern.Found) :
    Except ScanError (List Finding) := do
  let context := index.contextAt m.first.offset
  let id := family.findingId (firstOrdinal + findings.length)
  return findings ++ [← buildFinding family rule path context m.text id]

def addRule (registry : Registry) (family : Family) (path : String) (index : Source.Index)
    (firstOrdinal : Nat) (findings : List Finding) (rule : Rule) :
    Except ScanError (List Finding) := do
  (← rule.matchesIn registry index.text).foldlM (addMatch family path index firstOrdinal rule)
    findings

def scanFile (registry : Registry) (rules : List Rule) (family : Family) (file : SourceFile)
    (firstOrdinal : Nat) : Except ScanError (List Finding) :=
  let index := Source.index file.content.toList
  rules.foldlM (addRule registry family file.path index firstOrdinal) []

def addFile (registry : Registry) (rules : List Rule) (family : Family)
    (findings : List Finding) (file : SourceFile) : Except ScanError (List Finding) := do
  return findings ++ (← scanFile registry rules family file (findings.length + 1))

def scan (registry : Registry) (files : List SourceFile) (ruleSet : RuleSet) (family : Family) :
    Logged (Except ScanError (List Finding)) :=
  let sources := files.filter (·.path.endsWith family.extension)
  if sources.isEmpty then ⟨.ok [], []⟩
  else
    let start : LogRecord :=
      ⟨.info, s!"[{family.name}] Analyzing {sources.length} {family.extension} file(s)..."⟩
    match sources.foldlM (addFile registry ruleSet.rules family) [] with
    | .error cause => ⟨.error cause, [start]⟩
    | .ok findings =>
      ⟨.ok findings, [start, ⟨.info, s!"[{family.name}] Found {findings.length} issue(s)"⟩]⟩

def scanArc (files : List SourceFile) (ruleSet : RuleSet := RuleSet.arc) :
    Logged (Except ScanError (List Finding)) :=
  scan .builtin files ruleSet .arc

end ContractScan
