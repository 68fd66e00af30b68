import ContractScan.Text.Blank

/-! # Runs of names

Characters that follow one another often have names that start with the same
words, so their names are listed by what comes after these.
-/

namespace ContractScan.Text

/-- The names of the characters from `first` on: `stem` followed by one of the endings, which
semicolons and line ends separate. -/
structure NameRun where
  first : Nat
  stem : String
  endings : String

def NameRun.code? (run : NameRun) (name : String) : Option Nat :=
  if name.startsWith run.stem then
    ((run.endings.splitOn ";").findIdx? (run.stem ++ trimmed · == name)).map (run.first + ·)
  else none

end ContractScan.Text
