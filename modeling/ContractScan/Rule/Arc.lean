import ContractScan.Rule.RuleSet

/-! # Rules for the Arc chain

The rules that come with the scanner.
-/

namespace ContractScan

namespace Rule

def arc001 : Rule where
  id := "ARC001"
  name := "Unsafe block.prevrandao Usage"
  severity := .high
  pattern := "block\\.prevrandao|block\\.difficulty"
  description := "block.prevrandao always returns 0 on Arc. Using it for randomness is insecure."
  recommendation := "Use Chainlink VRF or another verifiable random function for randomness."
  cweId := some "CWE-330"

def arc002 : Rule where
  id := "ARC002"
  name := "Hardcoded 6-Decimal Assumption"
  severity := .high
  pattern := "\\b(1e6|10\\s*\\*\\*\\s*6|1000000)\\b.*(?:decimals?|usdc|usdt|stable)"
  ignoreCase := true
  description := "Arc uses 18 decimals for native USDC, not 6. Hardcoding 6 decimals will cause " ++
    "calculation errors."
  recommendation := "Use 18 decimals (1e18) for USDC on Arc, or dynamically fetch decimals."
  cweId := some "CWE-682"

def arc003 : Rule where
  id := "ARC003"
  name := "Strict Timestamp Comparison"
  severity := .medium
  pattern := "block\\.timestamp\\s*(==|!=)\\s*"
  description := "Multiple Arc blocks can share the same timestamp. Strict equality checks may fail."
  recommendation := "Use >= or <= for timestamp comparisons instead of strict equality."
  cweId := some "CWE-697"

def arc004 : Rule where
  id := "ARC004"
  name := "Unnecessary Confirmation Waits"
  severity := .low
  pattern := "wait.*confirm|confirmation.*wait|require.*blocks?.*confirm"
  ignoreCase := true
  description := "Arc has instant deterministic finality. Waiting for confirmations is unnecessary."
  recommendation := "Remove confirmation wait logic - Arc transactions are final immediately."
  cweId := some "CWE-400"

/-- The pattern goes across lines. -/
def arc005 : Rule where
  id := "ARC005"
  name := "SELFDESTRUCT in Constructor"
  severity := .high
  pattern := "constructor[^\x7d]*selfdestruct"
  ignoreCase := true
  dotAll := true
  description := "SELFDESTRUCT reverts when called in constructor on Arc."
  recommendation := "Move selfdestruct logic to a separate function, not the constructor."
  cweId := some "CWE-670"

def arc006 : Rule where
  id := "ARC006"
  name := "Missing USDC Blocklist Handling"
  severity := .medium
  pattern := "transfer\\s*\\([^)]*\\)|transferFrom\\s*\\([^)]*\\)"
  predicate := some "usdc_without_blocklist"
  description := "USDC has a blocklist. Transfers to/from blocked addresses will fail."
  recommendation := "Add try-catch or check blocklist status before USDC transfers."
  cweId := some "CWE-754"

def arc007 : Rule where
  id := "ARC007"
  name := "Mixed Decimal Interface"
  severity := .medium
  pattern := "\\.decimals\\s*\\(\\s*\\)"
  predicate := some "hardcoded_six_decimals"
  description := "When interacting with tokens, be aware Arc USDC has 18 decimals, not 6."
  recommendation := "Always use the decimals() function dynamically, never hardcode."
  cweId := some "CWE-682"

end Rule

def RuleSet.arc : RuleSet where
  name := "arc"
  version := "1.0.0"
  description := some "Vulnerabilities specific to Arc chain semantics"
  rules := [Rule.arc001, Rule.arc002, Rule.arc003, Rule.arc004, Rule.arc005, Rule.arc006,
    Rule.arc007]

end ContractScan
