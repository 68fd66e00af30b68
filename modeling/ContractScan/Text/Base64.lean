/-! # Octets in base 64

Four characters stand for three octets. Characters outside the alphabet do not
count, and the padding ends the text.
-/

namespace ContractScan.Text

def base64Value? (c : Char) : Option Nat :=
  if 'A' ≤ c && c ≤ 'Z' then some (c.toNat - 0x41)
  else if 'a' ≤ c && c ≤ 'z' then some (c.toNat - 0x61 + 26)
  else if c.isDigit then some (c.toNat - 0x30 + 52)
  else if c == '+' then some 62
  else if c == '/' then some 63
  else none

/-- `group` holds the values of the open group, and `pads` the padding just before. -/
def base64From (group : List Nat) (pads : Nat) : List Char → Option (List UInt8)
  | [] => if group.isEmpty then some [] else none
  | c :: rest =>
    if c == '=' then
      if group.length < 2 then base64From group pads rest
      else if 4 ≤ group.length + pads + 1 then some []
      else base64From group (pads + 1) rest
    else
      match base64Value? c with
      | none => base64From group pads rest
      | some n =>
        match group with
        | [a] => (base64From [a, n] 0 rest).map (UInt8.ofNat (a * 4 + n / 16) :: ·)
        | [a, b] => (base64From [a, b, n] 0 rest).map (UInt8.ofNat (b % 16 * 16 + n / 4) :: ·)
        | [_, _, b] => (base64From [] 0 rest).map (UInt8.ofNat (b % 4 * 64 + n) :: ·)
        | _ => base64From [n] 0 rest

def base64? (text : List Char) : Option (List UInt8) :=
  base64From [] 0 text

end ContractScan.Text
