/-! # Faults of documents -/

namespace ContractScan.Yaml

inductive Fault where
  /-- The text does not follow the grammar, or a node has no meaning under its tag. -/
  | malformed
  /-- A number, a date or the code of a character that does not exist. -/
  | outOfRange
  /-- The code of a character, or a power of sixty, that is too large to be handled. -/
  | tooLarge
  /-- A truth value that is none of the words for one. -/
  | unknownTruth
  /-- A number without any character. -/
  | emptyNumber
  /-- A date that does not have the form of one. -/
  | notMoment
  /-- A date that is not written as a text. -/
  | notText
  /-- A mapping that stands for itself. -/
  | endless
  deriving DecidableEq, Repr

end ContractScan.Yaml
