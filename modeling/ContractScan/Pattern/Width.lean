import ContractScan.Pattern.Basic

/-! # Widths of patterns

How many characters a pattern can match, at least and at most. A look-behind
needs a pattern for which the two agree.
-/

namespace ContractScan.Pattern

/-- The least and the greatest number of characters that a node can match. -/
structure Width where
  least : Nat
  most : Option Nat
  deriving DecidableEq, Repr

namespace Width

def zero : Width := ⟨0, some 0⟩

def one : Width := ⟨1, some 1⟩

def add (a b : Width) : Width :=
  ⟨a.least + b.least, do return (← a.most) + (← b.most)⟩

def either (a b : Width) : Width :=
  ⟨min a.least b.least, do return max (← a.most) (← b.most)⟩

/-- Nothing repeated without bound is nothing, and so is anything repeated no times. -/
def times (a : Width) (least : Nat) (most : Option Nat) : Width :=
  ⟨a.least * least,
    if a.most == some 0 || most == some 0 then some 0 else do return (← a.most) * (← most)⟩

def isFixed (a : Width) : Bool :=
  a.most == some a.least

end Width

def Node.width (groups : Nat → Width) : Node → Width
  | .empty | .anchor _ | .look _ _ _ => .zero
  | .chars _ => .one
  | .seq first second => (first.width groups).add (second.width groups)
  | .alt first second => (first.width groups).either (second.width groups)
  | .group _ body => body.width groups
  | .repetition _ least most body => (body.width groups).times least most
  | .backreference index _ => groups index
  | .conditional _ matched unmatched => (matched.width groups).either (unmatched.width groups)
  | .atomic body => body.width groups

end ContractScan.Pattern
