/-! # Tokens of a document -/

namespace ContractScan.Yaml

structure TagName where
  handle : Option String
  suffix : String
  deriving DecidableEq, Repr

inductive Directive where
  | version (major minor : Nat)
  | handle (name stem : String)
  | other
  deriving DecidableEq, Repr

/-- The start and end of a block stand where the indentation changes. -/
inductive Token where
  | streamEnd
  | directive (directive : Directive)
  | documentStart
  | documentEnd
  | blockSequenceStart
  | blockMappingStart
  | blockEnd
  | flowSequenceStart
  | flowSequenceEnd
  | flowMappingStart
  | flowMappingEnd
  | flowEntry
  | blockEntry
  | key
  | value
  | reference (name : String)
  | anchor (name : String)
  | tag (name : TagName)
  | scalar (text : List Char) (plain : Bool)
  deriving DecidableEq, Repr

end ContractScan.Yaml
