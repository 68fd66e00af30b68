import ContractScan.Text.Blank
import ContractScan.Text.DecimalDigit

/-! # Integers in texts

An integer may have blanks around it, one sign, and single underscores between
its digits, which may be of any script.
-/

namespace ContractScan.Text

def digitLimit : Nat := 4300

def tooManyDigits (digits : Nat) : String :=
  s!"Exceeds the limit ({digitLimit} digits) for integer string conversion: value has {digits} "
    ++ "digits; use sys.set_int_max_str_digits() to increase the limit"

/-- The values of digits with single underscores between them. -/
def digitValues? : List Char → Option (List Nat)
  | [] => none
  | [c] => (digitValue? c).map ([·])
  | c :: '_' :: rest => do return (← digitValue? c) :: (← digitValues? rest)
  | c :: rest => do return (← digitValue? c) :: (← digitValues? rest)

def natural? (text : List Char) : Option Nat := do
  let digits ← digitValues? text
  guard (digits.length ≤ digitLimit)
  return digits.foldl (10 * · + ·) 0

def integer? (text : List Char) : Option Int :=
  match trim text with
  | '+' :: digits => (natural? digits).map Int.ofNat
  | '-' :: digits => (natural? digits).map fun n => -(n : Int)
  | digits => (natural? digits).map Int.ofNat

def digitIn? (base : Nat) (c : Char) : Option Nat :=
  let value? := match digitValue? c with
    | some d => some d
    | none =>
      if 'a' ≤ c && c ≤ 'z' then some (c.toNat - 0x61 + 10)
      else if 'A' ≤ c && c ≤ 'Z' then some (c.toNat - 0x41 + 10)
      else none
  value?.filter (· < base)

def naturalIn? (base : Nat) (digits : List Char) : Option Nat :=
  if digits.isEmpty then none
  else digits.foldlM (fun n c => (digitIn? base c).map (base * n + ·)) 0

def baseMark (base : Nat) : Char :=
  if base == 2 then 'b' else if base == 8 then 'o' else 'x'

def withoutBaseMark (base : Nat) : List Char → List Char
  | '0' :: c :: rest => if c.toLower == baseMark base then rest else '0' :: c :: rest
  | digits => digits

def integerIn? (base : Nat) (text : List Char) : Option Int :=
  let natural? (digits : List Char) : Option Nat := naturalIn? base (withoutBaseMark base digits)
  match trim text with
  | '+' :: digits => (natural? digits).map Int.ofNat
  | '-' :: digits => (natural? digits).map fun n => -(n : Int)
  | digits => (natural? digits).map Int.ofNat

end ContractScan.Text
