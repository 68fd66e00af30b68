/-! # Symbols of pattern texts

The text of a pattern is cut into single characters and pairs of a backslash
with the character after it.
-/

namespace ContractScan.Pattern

/-- A character, a backslash with the character after it, or a backslash at the end. -/
inductive Symbol where
  | plain (c : Char)
  | escaped (c : Char)
  | dangling
  deriving DecidableEq, Repr

def Symbol.chars : Symbol → List Char
  | .plain c => [c]
  | .escaped c => ['\\', c]
  | .dangling => ['\\']

def Symbol.width (s : Symbol) : Nat :=
  s.chars.length

def symbols : List Char → List Symbol
  | [] => []
  | ['\\'] => [.dangling]
  | '\\' :: c :: rest => .escaped c :: symbols rest
  | c :: rest => .plain c :: symbols rest

end ContractScan.Pattern
