import ContractScan.Text.LetterCase
import ContractScan.Value.Text

/-! # Slither's detectors

What is known about detectors beside what a report says: severities by impact,
advice by detector, and the detectors worth listing.
-/

namespace ContractScan.Slither

def impacts : List (String × String) :=
  [("High", "high"), ("Medium", "medium"), ("Low", "low"), ("Informational", "info"),
    ("Optimization", "info")]

def defaultSeverity : String := "info"

def confidences : List String :=
  ["High", "Medium", "Low"]

def fallbackRemediation : String :=
  "Review the code and apply secure coding practices."

def remediations : List (String × String) :=
  [("reentrancy-eth", "Use the checks-effects-interactions pattern. Consider using " ++
      "ReentrancyGuard from OpenZeppelin."),
    ("reentrancy-no-eth",
      "Apply the checks-effects-interactions pattern even for non-ETH reentrancy."),
    ("uninitialized-state", "Initialize all state variables in the constructor."),
    ("uninitialized-local", "Initialize all local variables before use."),
    ("arbitrary-send-eth",
      "Validate recipient addresses and use pull over push pattern for ETH transfers."),
    ("controlled-delegatecall", "Never use user-controlled addresses in delegatecall."),
    ("suicidal", "Add access control to selfdestruct or remove it entirely."),
    ("unchecked-transfer",
      "Use SafeERC20 library or check return values of transfer/transferFrom."),
    ("locked-ether",
      "Add a withdraw function or remove payable modifier if ETH is not needed."),
    ("tx-origin", "Replace tx.origin with msg.sender for authentication."),
    ("timestamp",
      "Avoid using block.timestamp for critical logic. Consider using block numbers."),
    ("weak-prng", "Use a verifiable random function (VRF) like Chainlink VRF instead of " ++
      "block variables."),
    ("shadowing-state", "Rename variables to avoid shadowing inherited state variables."),
    ("missing-zero-check",
      "Add require(address != address(0)) checks for address parameters.")]

def knownDetectors : List String :=
  ["reentrancy-eth", "reentrancy-no-eth", "reentrancy-benign", "uninitialized-state",
    "uninitialized-local", "arbitrary-send-eth", "controlled-delegatecall", "suicidal",
    "unchecked-transfer", "locked-ether", "tx-origin", "timestamp", "weak-prng",
    "shadowing-state", "missing-zero-check"]

def remediationFor (check : String) : String :=
  (remediations.lookup check).getD fallbackRemediation

def capitalized (word : String) : String :=
  match word.toList with
  | [] => ""
  | c :: rest => String.ofList (Text.upperChar c ++ rest)

/-- The title of a detector: the words between dashes, capitalized. -/
def title (check : String) : String :=
  " ".intercalate ((check.splitOn "-").map capitalized)

def confidence : Value → String
  | .str s => if confidences.contains s then s else "Unknown"
  | _ => "Unknown"

end ContractScan.Slither
