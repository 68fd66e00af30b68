import ContractScan.FileTree.Basic
import ContractScan.Rule.RuleSet

/-! # Rule files -/

namespace ContractScan.RuleSet

/-- Reads the text of a rule file. A file that is locked is named by its place in the tree. -/
def fileText (tree : FileTree) (path : Path) : Except RuleSetError (List Char) :=
  if path.hasZero then .error .impossiblePath
  else
    match tree.read path with
    | .error e =>
      let named := match e with
        | .denied => path.resolve tree.base
        | _ => path
      .error (.config (.unreadable path.text (e.message named.text)))
    | .ok content =>
      match content.text? with
      | some text => .ok (Text.unifyLineEnds text)
      | none => .error .undecodable

def fileDocument (read : DocumentReader) (tree : FileTree) (path : Path) :
    Except RuleSetError Value := do
  match read (← fileText tree path) with
  | .ok document => return document
  | .error .malformed => throw (.config (.malformed path.text))
  | .error fault => throw (.unreadableValue fault)

def load (read : DocumentReader) (registry : Registry) (tree : FileTree) (path : Path) :
    Logged (Except RuleSetError RuleSet) :=
  match fileDocument read tree path with
  | .error cause => ⟨.error cause, []⟩
  | .ok document =>
    let parsed := ofDocument registry document path.text
    match parsed.value with
    | .error _ => parsed
    | .ok ruleSet =>
      let record : LogRecord :=
        ⟨.debug, s!"Loaded {ruleSet.rules.length} rules from {path.text}"⟩
      { parsed with logs := parsed.logs ++ [record] }

end ContractScan.RuleSet
