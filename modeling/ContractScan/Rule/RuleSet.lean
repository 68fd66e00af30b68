import ContractScan.FileTree.Path
import ContractScan.Log
import ContractScan.Rule.Basic
import ContractScan.Text.Blank
import ContractScan.Text.Pieces
import ContractScan.Yaml.Fault

/-! # Rule sets

An ordered collection of rules with distinct ids. A document becomes a rule
set only if every rule in it is sound, the disabled ones too; the rule set
then holds the enabled ones.
-/

namespace ContractScan

structure RuleSet where
  name : String
  version : String := "0"
  description : Option String := none
  rules : List Rule := []
  deriving DecidableEq, Repr

inductive ConfigError where
  | unreadable (path reason : String)
  | malformed (path : String)
  | notMapping (source : String)
  | invalid (source : String) (issues : List Issue)
  | unknownIds (ids : List String) (name : String)
  deriving DecidableEq, Repr

namespace ConfigError

/-- The wording, with what the reader of documents or the check of the fields reports. -/
def message (report : String) : ConfigError → String
  | .unreadable path reason => s!"Cannot read rule file {path}: {reason}"
  | .malformed path => s!"Malformed YAML in rule file {path}: {report}"
  | .notMapping source => s!"Rule file {source} must contain a mapping with a 'rules' list"
  | .invalid source issues =>
    let plural := if issues.length == 1 then "" else "s"
    s!"Invalid rule set in {source}: {issues.length} validation error{plural} for RuleSet{report}"
  | .unknownIds ids name => s!"Unknown rule id(s) {Text.quotedList ids} for rule set '{name}'"

end ConfigError

/-- Gives a text its value as a document. -/
abbrev DocumentReader := List Char → Except Yaml.Fault Value

/-- Why no rule set comes out of a document. The causes after the first are not reported as faults
of the configuration. -/
inductive RuleSetError where
  | config (cause : ConfigError)
  /-- A pattern repeats a part too often. -/
  | overflow
  /-- The path cannot be asked for. -/
  | impossiblePath
  /-- The file does not hold a text. -/
  | undecodable
  /-- A value in the file cannot be read. -/
  | unreadableValue (fault : Yaml.Fault)
  deriving DecidableEq, Repr

namespace RuleSet

def ids (s : RuleSet) : List String :=
  s.rules.map (·.id)

def get? (s : RuleSet) (id : String) : Option Rule :=
  s.rules.find? (·.id == id)

def select (s : RuleSet) (wanted : List String) : Except ConfigError RuleSet :=
  let unknown := (wanted.filter (!s.ids.contains ·)).eraseDups.mergeSort
  if unknown.isEmpty then
    .ok { s with rules := s.rules.filter fun rule => wanted.contains rule.id }
  else .error (.unknownIds unknown s.name)

/-- The ids in a text that lists them with commas; blanks around them and blank parts do not
count. -/
def listedIds (text : List Char) : List (List Char) :=
  ((Text.pieces ',' text).map Text.trim).filter (!·.isEmpty)

def firstRepeated (seen : List String) : List Rule → Option String
  | [] => none
  | rule :: rest =>
    if seen.contains rule.id then some rule.id else firstRepeated (rule.id :: seen) rest

def distinctIds (rules : List Rule) : Checked (List Rule) :=
  match firstRepeated [] rules with
  | none => .ok rules
  | some id => .issue (.rejected s!"duplicate rule id '{id}'")

def rulesOfValue (registry : Registry) (value : Value) :
    Except Rule.Overflow (Checked (List Rule)) :=
  match Field.items value with
  | .issues first rest => .ok (.issues first rest)
  | .ok values => do
    let rules ← values.mapM (Rule.ofValue registry)
    return (Checked.collect 0 rules).andThen distinctIds

def rulesOfEntries (registry : Registry) (entries : List (Value × Value)) :
    Except Rule.Overflow (Checked (List Rule)) :=
  match Value.lookup entries "rules" with
  | none => .ok (.ok [])
  | some value => rulesOfValue registry value

def ofEntries (registry : Registry) (entries : List (Value × Value)) :
    Except Rule.Overflow (Checked RuleSet) := do
  let rules ← rulesOfEntries registry entries
  let fields := RuleSet.mk <$> Field.required entries "name" Field.text
    <*> Field.optional entries "version" "0" Field.text
    <*> Field.optional entries "description" none Field.optionalText
    <*> rules.under (.field "rules")
  return fields.alongside (Field.strayKeys ["name", "version", "description", "rules"] entries)

/-- Entries without a name take the stem of their source. -/
def named (source : String) (entries : List (Value × Value)) : List (Value × Value) :=
  if (Value.lookup entries "name").isSome then entries
  else entries ++ [(.str "name", .str (Path.ofText source).stem)]

def ofDocument (registry : Registry) (document : Value) (source : String) :
    Logged (Except RuleSetError RuleSet) :=
  match document with
  | .map entries =>
    match ofEntries registry (named source entries) with
    | .error .overflow => ⟨.error .overflow, []⟩
    | .ok (.issues first rest) => ⟨.error (.config (.invalid source (first :: rest))), []⟩
    | .ok (.ok ruleSet) =>
      let enabled := ruleSet.rules.filter (·.enabled)
      let skipped := ruleSet.rules.length - enabled.length
      let logs : List LogRecord :=
        if skipped == 0 then []
        else [⟨.debug, s!"Skipping {skipped} disabled rule(s) in {source}"⟩]
      ⟨.ok { ruleSet with rules := enabled }, logs⟩
  | _ => ⟨.error (.config (.notMapping source)), []⟩

end RuleSet

end ContractScan
