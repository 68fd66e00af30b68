import ContractScan.Schema.Issue

/-! # Checked data

The result of checking data: the value, or all its issues in order. Parts of a
record are checked independently, so their issues add up.
-/

namespace ContractScan

inductive Checked (α : Type) where
  | ok (value : α)
  | issues (first : Issue) (rest : List Issue)
  deriving Repr

namespace Checked

variable {α β : Type}

def issue (kind : IssueKind) (location : List Step := []) : Checked α :=
  .issues ⟨location, kind⟩ []

def issueList : Checked α → List Issue
  | .ok _ => []
  | .issues first rest => first :: rest

def map (f : α → β) : Checked α → Checked β
  | .ok a => .ok (f a)
  | .issues first rest => .issues first rest

/-- Applies a checked function; issues of both sides are kept, the function's first. -/
def apply : Checked (α → β) → Checked α → Checked β
  | .ok f, a => a.map f
  | .issues first rest, a => .issues first (rest ++ a.issueList)

def andThen : Checked α → (α → Checked β) → Checked β
  | .ok a, f => f a
  | .issues first rest, _ => .issues first rest

def alongside (a : Checked α) (other : List Issue) : Checked α :=
  match a, other with
  | .ok a, [] => .ok a
  | .ok _, first :: rest => .issues first rest
  | .issues first rest, other => .issues first (rest ++ other)

/-- Moves the issues to a part of a larger record. -/
def under (step : Step) : Checked α → Checked α
  | .ok a => .ok a
  | .issues first rest =>
    let move (i : Issue) : Issue := { i with location := step :: i.location }
    .issues (move first) (rest.map move)

def collect : Nat → List (Checked α) → Checked (List α)
  | _, [] => .ok []
  | position, item :: rest =>
    ((item.under (.index position)).map List.cons).apply (collect (position + 1) rest)

instance : Applicative Checked where
  pure := .ok
  map := Checked.map
  seq f a := f.apply (a ())

end Checked

end ContractScan
