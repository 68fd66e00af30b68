import ContractScan.Text.Blank
import ContractScan.Text.LetterCase
import ContractScan.Value.Text

/-! # Weakness classes

Mythril names weaknesses by their number in the SWC registry. Ids come in
several spellings and have one canonical form.
-/

namespace ContractScan.Mythril

structure Weakness where
  name : String
  remediation : String
  deriving DecidableEq, Repr

def weaknesses : List (String × Weakness) :=
  [("SWC-101", ⟨"Integer Overflow and Underflow",
      "Use SafeMath library or Solidity 0.8+ with built-in overflow checks."⟩),
    ("SWC-104", ⟨"Unchecked Call Return Value",
      "Always check the return value of low-level calls and handle failures."⟩),
    ("SWC-105", ⟨"Unprotected Ether Withdrawal",
      "Add access control (onlyOwner, role-based) to withdrawal functions."⟩),
    ("SWC-106", ⟨"Unprotected SELFDESTRUCT",
      "Add access control to selfdestruct or remove it entirely."⟩),
    ("SWC-107", ⟨"Reentrancy",
      "Use checks-effects-interactions pattern and ReentrancyGuard."⟩),
    ("SWC-110", ⟨"Assert Violation",
      "Use require() for input validation, assert() only for invariants."⟩),
    ("SWC-112", ⟨"Delegatecall to Untrusted Callee",
      "Never delegatecall to user-controlled addresses."⟩),
    ("SWC-113", ⟨"DoS with Failed Call", "Use pull over push pattern for sending ETH."⟩),
    ("SWC-114", ⟨"Transaction Order Dependence",
      "Use commit-reveal schemes or other frontrunning mitigations."⟩),
    ("SWC-115", ⟨"Authorization through tx.origin",
      "Replace tx.origin with msg.sender for authentication."⟩),
    ("SWC-116", ⟨"Block Timestamp Dependence",
      "Avoid using block.timestamp for critical logic."⟩),
    ("SWC-120", ⟨"Weak Sources of Randomness",
      "Use Chainlink VRF or other verifiable randomness sources."⟩),
    ("SWC-123", ⟨"Requirement Violation",
      "Review the require statement logic and ensure valid inputs."⟩),
    ("SWC-124", ⟨"Write to Arbitrary Storage Location",
      "Validate array indices and storage slot calculations."⟩),
    ("SWC-127", ⟨"Arbitrary Jump with Function Type Variable",
      "Avoid using function type variables with user input."⟩)]

def knownIds : List String :=
  weaknesses.map (·.1)

def idMark : List Char :=
  "SWC-".toList

/-- The canonical form of an id in a text: blanks around it are dropped, and the mark is put before
what follows it in any letter case. -/
def canonicalId (text : List Char) : String :=
  let value := Text.trim text
  if value.isEmpty then ""
  else if idMark.isPrefixOf (Text.upperText value) then
    String.ofList (idMark ++ value.drop idMark.length)
  else String.ofList (idMark ++ value)

def swcId : Value → String
  | .null => ""
  | value => canonicalId value.text.toList

end ContractScan.Mythril
