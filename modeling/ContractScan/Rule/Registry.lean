import ContractScan.Pattern.Match
import ContractScan.Text.Occurrence
import ContractScan.Text.Quoted

/-! # Predicates on file contents

Rules refer to predicates by name. A predicate looks at the whole text of a
file and decides whether the rule is tried on it at all. A name is bound once.
-/

namespace ContractScan

abbrev Predicate := List Char → Bool

inductive RegistryError where
  | alreadyRegistered (name : String)
  | unknown (name : String) (known : List String)
  deriving DecidableEq, Repr

def RegistryError.message : RegistryError → String
  | .alreadyRegistered name => s!"Predicate '{name}' is already registered"
  | .unknown name known => s!"Unknown predicate '{name}'. Expected one of {Text.quotedList known}"

structure Registry where
  entries : List (String × Predicate)

namespace Registry

def get? (r : Registry) (name : String) : Option Predicate :=
  r.entries.lookup name

def contains (r : Registry) (name : String) : Bool :=
  (r.get? name).isSome

def names (r : Registry) : List String :=
  (r.entries.map (·.1)).mergeSort

def register (r : Registry) (name : String) (predicate : Predicate) :
    Except RegistryError Registry :=
  if r.contains name then .error (.alreadyRegistered name)
  else .ok ⟨r.entries ++ [(name, predicate)]⟩

def get (r : Registry) (name : String) : Except RegistryError Predicate :=
  match r.get? name with
  | some predicate => .ok predicate
  | none => .error (.unknown name r.names)

def holding (needle : String) : Predicate :=
  Text.occurs needle.toList

open Pattern in
def usdc : Pattern :=
  .literal "usdc" .full

open Pattern in
def blocklist : Pattern :=
  .alternatives [.literal "blocklist" .full, .literal "blocked" .full, .literal "blacklist" .full]

open Pattern in
def sixDecimals : Pattern :=
  .alternatives [.literal "1e6", .literal "10**6", .literal "1000000"]

def usdcWithoutBlocklist : Predicate := fun content =>
  (Pattern.search usdc content).isSome && (Pattern.search blocklist content).isNone

def hardcodedSixDecimals : Predicate := fun content =>
  (Pattern.search sixDecimals content).isSome

def builtin : Registry :=
  ⟨[("usdc_without_blocklist", usdcWithoutBlocklist),
    ("hardcoded_six_decimals", hardcodedSixDecimals)]⟩

end Registry

end ContractScan
