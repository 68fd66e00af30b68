/-! # Log records

What a step reports about its progress, beside its result.
-/

namespace ContractScan

inductive LogLevel where
  | debug
  | info
  | warning
  deriving DecidableEq, Repr

def LogLevel.word : LogLevel → String
  | .debug => "DEBUG"
  | .info => "INFO"
  | .warning => "WARNING"

def LogLevel.rank : LogLevel → Nat
  | .debug => 10
  | .info => 20
  | .warning => 30

structure LogRecord where
  level : LogLevel
  message : String
  deriving DecidableEq, Repr

/-- A result with what was logged on the way to it. -/
structure Logged (α : Type) where
  value : α
  logs : List LogRecord := []
  deriving Repr

end ContractScan
