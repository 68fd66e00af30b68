import ContractScan.Analyzer.Invocation
import ContractScan.Finding.Basic

/-! # Reports of any shape

Reports are read without a schema: entries may be missing, empty or of another
kind than expected. What cannot be read this way is an error of its own.
-/

namespace ContractScan.Shape

/-- The entry of a mapping, null where there is none. -/
def entry (value : Value) (key : String) : Except AnalyzerError Value :=
  match value with
  | .map entries => .ok ((Value.lookup entries key).getD .null)
  | _ => .error .notMapping

def orElse (value other : Value) : Value :=
  if value.truthy then value else other

/-- What a value is made of: the items of a list, the keys of a mapping, the characters of a
text. -/
def elements : Value → Except AnalyzerError (List Value)
  | .list items | .set items => .ok items
  | .str s => .ok (s.toList.map fun c => .str c.toString)
  | .map entries => .ok (entries.map (·.1))
  | _ => .error .wrongKind

def elementsIfAny (value : Value) : Except AnalyzerError (List Value) :=
  if value.truthy then elements value else .ok []

def isMapping : Value → Bool
  | .map _ => true
  | _ => false

/-- Looks a label up; a label that cannot be a key is an error. -/
def label {α : Type} (table : List (String × α)) (default : α) (value : Value) :
    Except AnalyzerError α :=
  match orElse value (.str "") with
  | .str s => .ok ((table.lookup s).getD default)
  | value => if value.isKey then .ok default else .error .wrongKind

def finding (fields : List (String × Value)) : Except AnalyzerError Finding :=
  match Finding.ofValue (.record fields) with
  | .ok f => .ok f
  | .issues first rest => .error (.invalidFinding (first :: rest))

end ContractScan.Shape
