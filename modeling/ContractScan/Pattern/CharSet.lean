import ContractScan.Text.Alphanumeric
import ContractScan.Text.Blank
import ContractScan.Text.DecimalDigit
import ContractScan.Text.LetterCase

/-! # Sets of characters

What one place of a pattern accepts. Sets are written with code points, so
that a pattern may name places that no text can hold.
-/

namespace ContractScan.Pattern

/-- How letters are compared: as they are, or without regard to case among the ASCII letters or
among all. -/
inductive Folding where
  | exact
  | ascii
  | full
  deriving DecidableEq, Repr

inductive CharKind where
  | digit
  | space
  | word
  deriving DecidableEq, Repr

inductive SetItem where
  | code (point : Nat)
  | range (first last : Nat)
  | kind (kind : CharKind) (negated : Bool)
  deriving DecidableEq, Repr

/-- `ascii` restricts the kinds of characters to ASCII. -/
structure CharSet where
  items : List SetItem
  negated : Bool := false
  folding : Folding := .exact
  ascii : Bool := false
  deriving DecidableEq, Repr

def CharKind.holds (ascii : Bool) (c : Char) : CharKind → Bool
  | .digit => if ascii then c.isDigit else Text.isDecimalDigit c
  | .space =>
    if ascii then c == ' ' || (0x09 ≤ c.toNat && c.toNat ≤ 0x0D) else Text.isBlank c
  | .word => if ascii then c == '_' || (c.toNat < 128 && c.isAlphanum) else Text.isWordChar c

def SetItem.covers (point : Nat) : SetItem → Bool
  | .code n => point == n
  | .range first last => first ≤ point && point ≤ last
  | .kind _ _ => false

def Folding.variants (point : Nat) : Folding → List Nat
  | .exact => [point]
  | .ascii =>
    if 0x41 ≤ point && point ≤ 0x5A then [point, point + 32]
    else if 0x61 ≤ point && point ≤ 0x7A then [point, point - 32]
    else [point]
  | .full => Text.caselessVariants point

namespace CharSet

/-- Whether an item accepts a character. Where case is folded among all letters, a code beyond the
basic plane that shares its set with other items is met only by its own lower-case form. -/
def accepts (set : CharSet) (c : Char) : SetItem → Bool
  | .kind kind negated => kind.holds set.ascii c != negated
  | .code n =>
    match set.folding with
    | .exact => c.toNat == n
    | .ascii => Text.asciiLowerCode c.toNat == Text.asciiLowerCode n
    | .full =>
      if 0xFFFF < n && 1 < set.items.length then Text.lowerCode c.toNat == n
      else (Text.lowerVariants (Text.lowerCode c.toNat)).contains (Text.lowerCode n)
  | .range first last =>
    (first ≤ c.toNat && c.toNat ≤ last) ||
      (set.folding != .exact &&
        (set.folding.variants c.toNat).any (SetItem.covers · (.range first last)))

def contains (set : CharSet) (c : Char) : Bool :=
  set.items.any (set.accepts c) != set.negated

def withinLine : CharSet :=
  { items := [.code 0x0A], negated := true }

def any : CharSet :=
  { items := [], negated := true }

end CharSet

end ContractScan.Pattern
