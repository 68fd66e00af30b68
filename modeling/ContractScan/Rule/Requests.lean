import ContractScan.Rule.Basic

/-! # Requests to a registry

Registrations are all that changes a registry. A rule keeps the name of its
predicate and looks it up again each time it is applied.
-/

namespace ContractScan.Registry

inductive Request where
  | register (name : String) (predicate : Predicate)
  | check (rule : Value)
  | apply (rule : Rule) (content : List Char)
  | call (name : String) (content : List Char)

inductive Reply where
  | registered
  | checked (result : Except Rule.Overflow (Checked Rule))
  | decided (verdict : Bool)
  | refused (cause : RegistryError)

def Reply.ofDecision : Except RegistryError Bool → Reply
  | .ok verdict => .decided verdict
  | .error cause => .refused cause

def answer (r : Registry) : Request → Registry × Reply
  | .register name predicate =>
    match r.register name predicate with
    | .ok r => (r, .registered)
    | .error cause => (r, .refused cause)
  | .check rule => (r, .checked (Rule.ofValue r rule))
  | .apply rule content => (r, .ofDecision (rule.appliesTo r content))
  | .call name content => (r, .ofDecision ((r.get name).map (· content)))

def afterAll (r : Registry) (requests : List Request) : Registry :=
  requests.foldl (fun r request => (r.answer request).1) r

end ContractScan.Registry
