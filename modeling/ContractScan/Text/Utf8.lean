/-! # Octets and texts

Texts are stored in UTF-8. Reading can be strict, or leave out every octet
that cannot belong to a character: a sequence that breaks off is left out up
to the first octet that does not continue it.
-/

namespace ContractScan.Text

/-- The number of octets that follow a first octet, the bits it gives, and the bounds of the
second octet. -/
def leadOctet? (b : Nat) : Option (Nat × Nat × Nat × Nat) :=
  if 0xC2 ≤ b && b ≤ 0xDF then some (1, b - 0xC0, 0x80, 0xBF)
  else if b == 0xE0 then some (2, b - 0xE0, 0xA0, 0xBF)
  else if b == 0xED then some (2, b - 0xE0, 0x80, 0x9F)
  else if 0xE1 ≤ b && b ≤ 0xEF then some (2, b - 0xE0, 0x80, 0xBF)
  else if b == 0xF0 then some (3, b - 0xF0, 0x90, 0xBF)
  else if 0xF1 ≤ b && b ≤ 0xF3 then some (3, b - 0xF0, 0x80, 0xBF)
  else if b == 0xF4 then some (3, b - 0xF0, 0x80, 0x8F)
  else none

/-- The character that octets are in the middle of: how many octets are still due, the bits so
far, and the bounds of the next octet. -/
structure Partial where
  due : Nat
  bits : Nat
  low : Nat
  high : Nat

/-- Reads on from the middle of a character. Broken sequences are left out and noted. -/
def decodeFrom : Option Partial → List Char → Bool → List UInt8 → List Char × Bool
  | none, done, clean, [] => (done.reverse, clean)
  | some _, done, _, [] => (done.reverse, false)
  | state, done, clean, octet :: rest =>
    let b := octet.toNat
    let fresh (clean : Bool) : List Char × Bool :=
      if b < 0x80 then decodeFrom none (Char.ofNat b :: done) clean rest
      else
        match leadOctet? b with
        | some (due, bits, low, high) => decodeFrom (some ⟨due, bits, low, high⟩) done clean rest
        | none => decodeFrom none done false rest
    match state with
    | none => fresh clean
    | some p =>
      if p.low ≤ b && b ≤ p.high then
        let bits := p.bits * 64 + (b - 0x80)
        if p.due ≤ 1 then decodeFrom none (Char.ofNat bits :: done) clean rest
        else decodeFrom (some ⟨p.due - 1, bits, 0x80, 0xBF⟩) done clean rest
      else fresh false

def decodeLossy (octets : List UInt8) : List Char :=
  (decodeFrom none [] true octets).1

def decode? (octets : List UInt8) : Option (List Char) :=
  match decodeFrom none [] true octets with
  | (text, true) => some text
  | (_, false) => none

/-- Every kind of line end becomes a line feed; `afterReturn` says that a return came just
before. -/
def unifyLineEndsFrom (done : List Char) : Bool → List Char → List Char
  | _, [] => done.reverse
  | afterReturn, c :: rest =>
    if c == '\r' then unifyLineEndsFrom ('\n' :: done) true rest
    else if c == '\n' && afterReturn then unifyLineEndsFrom done false rest
    else unifyLineEndsFrom (c :: done) false rest

def unifyLineEnds (text : List Char) : List Char :=
  unifyLineEndsFrom [] false text

end ContractScan.Text
