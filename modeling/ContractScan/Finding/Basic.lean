import ContractScan.Schema.Field

/-! # Findings

A finding is one vulnerability at one line of one file, whichever scanner
reports it.
-/

namespace ContractScan

inductive Severity where
  | critical
  | high
  | medium
  | low
  | info
  deriving DecidableEq, Repr

namespace Severity

def word : Severity → String
  | .critical => "critical"
  | .high => "high"
  | .medium => "medium"
  | .low => "low"
  | .info => "info"

def all : List Severity :=
  [.critical, .high, .medium, .low, .info]

def ofWord? (word : String) : Option Severity :=
  all.find? (·.word == word)

/-- The place among the severities; a word that is none comes after all. -/
def rankOfWord (word : String) : Nat :=
  all.findIdx (·.word == word)

def rank (s : Severity) : Nat :=
  rankOfWord s.word

def ofValue (value : Value) : Checked Severity :=
  let refuse : Checked Severity :=
    .issue (.notOneOf "'critical', 'high', 'medium', 'low' or 'info'")
  match value with
  | .str s => ((ofWord? s).map Checked.ok).getD refuse
  | _ => refuse

end Severity

inductive Tool where
  | patterns
  | slither
  | mythril
  deriving DecidableEq, Repr

namespace Tool

def word : Tool → String
  | .patterns => "arcshield"
  | .slither => "slither"
  | .mythril => "mythril"

def ofWord (word : String) : Checked Tool :=
  match [Tool.patterns, .slither, .mythril].find? (·.word == word) with
  | some tool => .ok tool
  | none => .issue (.notOneOf "'arcshield', 'slither' or 'mythril'")

def ofValue : Value → Checked Tool
  | .str s => ofWord s
  | _ => .issue (.notOneOf "'arcshield', 'slither' or 'mythril'")

end Tool

structure Finding where
  id : String
  title : String
  severity : Severity
  threatId : String := ""
  description : String
  filePath : String
  lineNumber : Nat
  codeSnippet : String
  cweId : Option String := none
  exploitability : String
  remediation : String
  fixPrompt : String
  contractName : Option String := none
  functionName : Option String := none
  detector : String
  tool : Tool
  arcSpecific : Bool := false
  arcRule : Option String := none
  lineNumber_pos : 0 < lineNumber
  deriving DecidableEq, Repr

namespace Finding

def fieldNames : List String :=
  ["id", "title", "severity", "threat_id", "description", "file_path", "line_number",
    "code_snippet", "cwe_id", "exploitability", "remediation", "fix_prompt", "contract_name",
    "function_name", "detector", "tool", "arc_specific", "arc_rule"]

def ofEntries (entries : List (Value × Value)) : Checked Finding :=
  let required {α : Type} := @Field.required α entries
  let optional {α : Type} := @Field.optional α entries
  let build id title severity threatId description filePath (line : { n : Nat // 0 < n })
      codeSnippet cweId exploitability remediation fixPrompt contractName functionName detector
      tool arcSpecific arcRule : Finding :=
    { id, title, severity, threatId, description, filePath, lineNumber := line.1, codeSnippet,
      cweId, exploitability, remediation, fixPrompt, contractName, functionName, detector, tool,
      arcSpecific, arcRule, lineNumber_pos := line.2 }
  build <$> required "id" Field.text
    <*> required "title" Field.text
    <*> required "severity" Severity.ofValue
    <*> optional "threat_id" "" Field.text
    <*> required "description" Field.text
    <*> required "file_path" Field.text
    <*> required "line_number" Field.positive
    <*> required "code_snippet" Field.text
    <*> optional "cwe_id" none Field.optionalText
    <*> required "exploitability" Field.text
    <*> required "remediation" Field.text
    <*> required "fix_prompt" Field.text
    <*> optional "contract_name" none Field.optionalText
    <*> optional "function_name" none Field.optionalText
    <*> required "detector" Field.text
    <*> required "tool" Tool.ofValue
    <*> optional "arc_specific" false Field.truth
    <*> optional "arc_rule" none Field.optionalText

def ofValue (value : Value) : Checked Finding :=
  Field.record "Finding" fieldNames ofEntries value

def entries (f : Finding) : List (Value × Value) :=
  [(.str "id", .str f.id), (.str "title", .str f.title),
    (.str "severity", .str f.severity.word), (.str "threat_id", .str f.threatId),
    (.str "description", .str f.description), (.str "file_path", .str f.filePath),
    (.str "line_number", .int f.lineNumber), (.str "code_snippet", .str f.codeSnippet),
    (.str "cwe_id", .ofOption f.cweId), (.str "exploitability", .str f.exploitability),
    (.str "remediation", .str f.remediation), (.str "fix_prompt", .str f.fixPrompt),
    (.str "contract_name", .ofOption f.contractName),
    (.str "function_name", .ofOption f.functionName), (.str "detector", .str f.detector),
    (.str "tool", .str f.tool.word), (.str "arc_specific", .bool f.arcSpecific),
    (.str "arc_rule", .ofOption f.arcRule)]

def toValue (f : Finding) : Value :=
  .map f.entries

/-- A finding never changes: setting any field is an issue of that field. -/
def assign (name : String) : Issue :=
  ⟨[.field name], .frozen⟩

/-- The data of a copy with some fields replaced, unchecked. Other names are left out. -/
def copyWith (f : Finding) (changes : List (Value × Value)) : Value :=
  .map (f.entries.map fun (name, value) =>
    (name, ((changes.find? (·.1.sameKey name)).map (·.2)).getD value))

end Finding

structure SourceFile where
  path : String
  content : String
  deriving DecidableEq, Repr

namespace SourceFile

def ofValue (value : Value) : Checked SourceFile :=
  Field.record "SourceFile" ["path", "content"] (fun entries =>
    SourceFile.mk <$> Field.required entries "path" Field.text
      <*> Field.required entries "content" Field.text) value

def toValue (f : SourceFile) : Value :=
  .record [("path", .str f.path), ("content", .str f.content)]

end SourceFile

end ContractScan
