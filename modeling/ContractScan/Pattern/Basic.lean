import ContractScan.Pattern.CharSet

/-! # Patterns

A pattern is a tree. Everything that flags decide is already settled in it:
case and character kinds in the sets, the meaning of line anchors in the
anchors.
-/

namespace ContractScan.Pattern

inductive Anchor where
  | textStart
  | lineStart
  | textEnd
  /-- The end of the text, or before the line feed that ends it. -/
  | lastLineEnd
  | lineEnd
  | wordBoundary (ascii : Bool)
  | notWordBoundary (ascii : Bool)
  deriving DecidableEq, Repr

/-- Which number of repetitions is tried first, and whether others are tried at all. -/
inductive RepeatMode where
  | greedy
  | lazy
  | possessive
  deriving DecidableEq, Repr

inductive Direction where
  | ahead
  /-- The body is matched from `width` characters before the place. -/
  | behind (width : Nat)
  deriving DecidableEq, Repr

inductive Node where
  | empty
  | chars (set : CharSet)
  | anchor (anchor : Anchor)
  | seq (first second : Node)
  | alt (first second : Node)
  | group (index : Nat) (body : Node)
  | repetition (mode : RepeatMode) (least : Nat) (most : Option Nat) (body : Node)
  | backreference (index : Nat) (folding : Folding)
  /-- The first branch where the group has matched, the second elsewhere. -/
  | conditional (index : Nat) (matched unmatched : Node)
  | look (direction : Direction) (negated : Bool) (body : Node)
  /-- The first way in which the body matches, and no other. -/
  | atomic (body : Node)
  deriving DecidableEq, Repr, Inhabited

namespace Node

def sequence : List Node → Node
  | [] => .empty
  | [node] => node
  | node :: rest => .seq node (sequence rest)

def alternatives : List Node → Node
  | [] => .empty
  | [node] => node
  | node :: rest => .alt node (alternatives rest)

def char (c : Char) (folding : Folding := .exact) : Node :=
  .chars { items := [.code c.toNat], folding }

def literal (text : String) (folding : Folding := .exact) : Node :=
  sequence (text.toList.map (char · folding))

def oneOf (items : List SetItem) : Node :=
  .chars { items }

def noneOf (excluded : List Char) : Node :=
  .chars { items := excluded.map fun c => .code c.toNat, negated := true }

def star (body : Node) : Node :=
  .repetition .greedy 0 none body

def plus (body : Node) : Node :=
  .repetition .greedy 1 none body

end Node

end ContractScan.Pattern

namespace ContractScan

abbrev Pattern := Pattern.Node

end ContractScan
