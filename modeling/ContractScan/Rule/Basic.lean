import ContractScan.Finding.Basic
import ContractScan.Pattern.Parser
import ContractScan.Rule.Registry

/-! # Rules

A rule fires at every match of its pattern in a file, where its predicate lets
it. A rule is accepted only if its pattern can be read and does not match the
empty text.
-/

namespace ContractScan

structure Rule where
  id : String
  name : String
  severity : Severity
  pattern : String
  ignoreCase : Bool := false
  multiline : Bool := false
  dotAll : Bool := false
  description : String
  recommendation : String
  cweId : Option String := none
  predicate : Option String := none
  enabled : Bool := true
  deriving DecidableEq, Repr

namespace Rule

def flags (rule : Rule) : Pattern.Flags :=
  (if rule.ignoreCase then [.ignoreCase] else []) ++
    (if rule.multiline then [.multiline] else []) ++ (if rule.dotAll then [.dotAll] else [])

def flagWeight (rule : Rule) : Nat :=
  (if rule.ignoreCase then 2 else 0) + (if rule.multiline then 8 else 0) +
    (if rule.dotAll then 16 else 0)

def matcher (rule : Rule) : Except Pattern.Error Pattern :=
  Pattern.parse rule.pattern.toList rule.flags

/-- A rule without a predicate applies to every content. -/
def appliesTo (registry : Registry) (rule : Rule) (content : List Char) :
    Except RegistryError Bool :=
  match rule.predicate with
  | none => .ok true
  | some name => (registry.get name).map (· content)

def fieldNames : List String :=
  ["id", "name", "severity", "pattern", "ignore_case", "multiline", "dotall", "description",
    "recommendation", "cwe_id", "predicate", "enabled"]

/-- A predicate has to be known when the rule is checked. -/
def knownPredicate (registry : Registry) : Option String → Checked (Option String)
  | none => .ok none
  | some name =>
    if registry.contains name then .ok (some name)
    else
      .issue (.rejected
        s!"unknown predicate '{name}', expected one of {Text.quotedList registry.names}")

def ofEntries (registry : Registry) (entries : List (Value × Value)) : Checked Rule :=
  Rule.mk <$> Field.required entries "id" Field.nonEmptyText
    <*> Field.required entries "name" Field.text
    <*> Field.required entries "severity" Severity.ofValue
    <*> Field.required entries "pattern" Field.nonEmptyText
    <*> Field.optional entries "ignore_case" false Field.truth
    <*> Field.optional entries "multiline" false Field.truth
    <*> Field.optional entries "dotall" false Field.truth
    <*> Field.required entries "description" Field.text
    <*> Field.required entries "recommendation" Field.text
    <*> Field.optional entries "cwe_id" none Field.optionalText
    <*> Field.optional entries "predicate" none (fun value =>
      (Field.optionalText value).andThen (knownPredicate registry))
    <*> Field.optional entries "enabled" true Field.truth

/-- A repeat count or a code that does not fit ends the check of a whole document. -/
inductive Overflow where
  | overflow
  deriving DecidableEq, Repr

def checkPattern (rule : Rule) : Except Overflow (Checked Rule) :=
  match rule.matcher with
  | .error .countTooLarge => .error .overflow
  | .error .asciiAndFullFlags =>
    .ok (.issue (.rejected "ASCII and UNICODE flags are incompatible"))
  | .error (.countTooLong digits) => .ok (.issue (.rejected (Text.tooManyDigits digits)))
  | .error (.fault fault position) =>
    let reason := fault.message position rule.pattern.toList
    .ok (.issue (.rejected s!"invalid pattern {Text.quoted rule.pattern}: {reason}"))
  | .ok node =>
    if Pattern.matchesWhole node [] then
      .ok (.issue (.rejected s!"pattern {Text.quoted rule.pattern} matches the empty string"))
    else .ok (.ok rule)

/-- The pattern is looked at only when all fields are sound. -/
def ofValue (registry : Registry) (value : Value) : Except Overflow (Checked Rule) :=
  match Field.record "Rule" fieldNames (ofEntries registry) value with
  | .ok rule => rule.checkPattern
  | .issues first rest => .ok (.issues first rest)

def toValue (rule : Rule) : Value :=
  .record [("id", .str rule.id), ("name", .str rule.name), ("severity", .str rule.severity.word),
    ("pattern", .str rule.pattern), ("ignore_case", .bool rule.ignoreCase),
    ("multiline", .bool rule.multiline), ("dotall", .bool rule.dotAll),
    ("description", .str rule.description), ("recommendation", .str rule.recommendation),
    ("cwe_id", .ofOption rule.cweId), ("predicate", .ofOption rule.predicate),
    ("enabled", .bool rule.enabled)]

end Rule

end ContractScan
