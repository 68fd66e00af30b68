import ContractScan.Analyzer.Shape
import ContractScan.Number.Ordinal
import ContractScan.Slither.Detector

/-! # Slither's reports

Every detector of a report that has a place in the source becomes a finding.
Its place is the first of its elements that has one.
-/

namespace ContractScan.Slither

open Shape

/-- The detectors of a report, which may stand in an envelope. -/
def detectors (payload : Value) : Except AnalyzerError (List Value) := do
  if !isMapping payload then return []
  let results ← entry payload "results"
  let container := if isMapping results then results else payload
  let items ← elementsIfAny (← entry container "detectors")
  return items.filter isMapping

def isLocated : Value → Bool
  | .map entries => ((Value.lookup entries "source_mapping").getD .null).truthy
  | _ => false

def firstLocated? (detector : Value) : Except AnalyzerError (Option Value) := do
  let elements ← elementsIfAny (← entry detector "elements")
  return elements.find? isLocated

/-- The first of some lines, or one. -/
def firstLine (lines : Value) : Except AnalyzerError Value :=
  if !lines.truthy then .ok (.int 1)
  else
    match lines with
    | .list (line :: _) => .ok (orElse line (.int 1))
    | .str s => .ok (.str (String.ofList (s.toList.take 1)))
    | .map _ => .error .noSuchEntry
    | _ => .error .wrongKind

def checkName (detector : Value) : String :=
  match detector with
  | .map entries => ((Value.lookup entries "check").map Value.text).getD "unknown"
  | _ => "unknown"

def finding (detector element : Value) (ordinal : Nat) : Except AnalyzerError Finding := do
  let check := checkName detector
  let mapping ← entry element "source_mapping"
  let filePath := orElse (← entry mapping "filename_relative") (.str "Unknown")
  let line ← firstLine (← entry mapping "lines")
  let specific := orElse (← entry element "type_specific_fields") (.map [])
  let parent := orElse (← entry specific "parent") (.map [])
  let name ← entry element "name"
  let contract := orElse (← entry parent "name") (orElse name (.str "Unknown"))
  let function := match ← entry element "type" with
    | .str "function" => name
    | _ => .null
  let severity ← label impacts defaultSeverity (← entry detector "impact")
  let description := orElse (← entry detector "description") (.str "")
  let snippet := orElse (← entry detector "first_markdown_element") (.str "")
  let confidence := confidence (← entry detector "confidence")
  Shape.finding [("id", .str (numberedId "SC" ordinal)), ("title", .str (title check)),
    ("severity", .str severity), ("description", description), ("file_path", filePath),
    ("line_number", line), ("code_snippet", snippet),
    ("exploitability", .str ("Confidence: " ++ confidence)),
    ("remediation", .str (remediationFor check)),
    ("fix_prompt", .str s!"Fix the {check} vulnerability in {filePath.text}"),
    ("contract_name", contract), ("function_name", function), ("detector", .str check),
    ("tool", .str Tool.slither.word)]

def findingsFrom : Nat → List Value → Except AnalyzerError (List Finding)
  | _, [] => .ok []
  | ordinal, detector :: rest => do
    match ← firstLocated? detector with
    | none => findingsFrom ordinal rest
    | some element =>
      let f ← finding detector element ordinal
      return f :: (← findingsFrom (ordinal + 1) rest)

def findings (payload : Value) : Except AnalyzerError (List Finding) := do
  findingsFrom 1 (← detectors payload)

end ContractScan.Slither
