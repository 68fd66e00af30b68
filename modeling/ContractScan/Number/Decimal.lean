import ContractScan.Number.Binary64
import ContractScan.Text.Blank
import ContractScan.Text.DecimalDigit

/-! # Decimal texts

A decimal is a number of units of a power of ten.
-/

namespace ContractScan

structure Decimal where
  digits : Nat
  power : Int
  deriving DecidableEq, Repr

namespace Decimal

def digitsValue (digits : List Char) : Nat :=
  digits.foldl (fun n c => 10 * n + (Text.digitValue? c).getD 0) 0

def exponent? (text : List Char) : Option Int :=
  let (negative, digits) := match text with
    | '-' :: rest => (true, rest)
    | '+' :: rest => (false, rest)
    | rest => (false, rest)
  if digits.isEmpty || !digits.all Text.isDecimalDigit then none
  else
    let n : Int := digitsValue digits
    some (if negative then -n else n)

def ofText? (text : List Char) : Option Decimal := do
  let whole := text.takeWhile Text.isDecimalDigit
  let rest := text.dropWhile Text.isDecimalDigit
  let (fraction, rest) := match rest with
    | '.' :: rest => (rest.takeWhile Text.isDecimalDigit, rest.dropWhile Text.isDecimalDigit)
    | rest => ([], rest)
  if whole.isEmpty && fraction.isEmpty then none
  else
    let exponent ← match rest with
      | [] => some 0
      | e :: rest => if e == 'e' || e == 'E' then exponent? rest else none
    return { digits := digitsValue (whole ++ fraction), power := exponent - fraction.length }

end Decimal

/-- A number in a text: a decimal or a word, with a sign and blanks around it. -/
def Binary64.ofText? (text : List Char) : Option Binary64 :=
  let (negative, number) := match Text.trim text with
    | '-' :: rest => (true, rest)
    | '+' :: rest => (false, rest)
    | rest => (false, rest)
  let word := String.ofList (number.map Char.toLower)
  if word == "inf" || word == "infinity" then some (.infinite negative)
  else if word == "nan" then some .nan
  else (Decimal.ofText? number).map fun d => .ofDecimal negative d.digits d.power

end ContractScan
