/-! # Binary floating-point numbers

A number of the 64-bit binary format is a sign, a mantissa and a power of two,
kept as exact integers. Reading a decimal rounds to the nearest such number,
and a half goes to the even mantissa.
-/

namespace ContractScan

/-- `finite negative mantissa exponent` is `± mantissa * 2 ^ exponent`, with a mantissa below
`2 ^ 53` and the least exponent that allows it, never below `-1074`. -/
inductive Binary64 where
  | nan
  | infinite (negative : Bool)
  | finite (negative : Bool) (mantissa : Nat) (exponent : Int)
  deriving DecidableEq, Repr, Inhabited

namespace Binary64

def leastExponent : Int := -1074

def greatestExponent : Int := 971

/-- `numerator / denominator` as a quotient of naturals after moving `2 ^ exponent` below. -/
def scaled (numerator denominator : Nat) (exponent : Int) : Nat × Nat :=
  match exponent with
  | .ofNat e => (numerator, denominator * Nat.pow 2 e)
  | .negSucc e => (numerator * Nat.pow 2 (e + 1), denominator)

/-- The nearest integer to a quotient, a half going to the even one. -/
def roundDiv (numerator denominator : Nat) : Nat :=
  let quotient := numerator / denominator
  let twice := 2 * (numerator % denominator)
  if denominator < twice || (twice == denominator && quotient % 2 == 1) then quotient + 1
  else quotient

/-- The exponent that leaves a mantissa of 53 bits, or the least exponent. -/
def exponentFor (numerator denominator : Nat) : Int :=
  let guess : Int := (numerator.log2 : Int) - denominator.log2 - 52
  let (n, d) := scaled numerator denominator guess
  let exact := if n / d < Nat.pow 2 52 then guess - 1 else guess
  max leastExponent exact

def ofRatio (negative : Bool) (numerator denominator : Nat) : Binary64 :=
  if numerator == 0 then .finite negative 0 leastExponent
  else
    let exponent := exponentFor numerator denominator
    let (n, d) := scaled numerator denominator exponent
    let mantissa := roundDiv n d
    let (mantissa, exponent) :=
      if mantissa == Nat.pow 2 53 then (Nat.pow 2 52, exponent + 1) else (mantissa, exponent)
    if greatestExponent < exponent then .infinite negative
    else .finite negative mantissa exponent

/-- The nearest number to `± digits * 10 ^ power`. Powers far outside the range of the format
are not expanded. -/
def ofDecimal (negative : Bool) (digits : Nat) (power : Int) : Binary64 :=
  let size : Int := (Nat.toDigits 10 digits).length + power
  if digits == 0 || size < -400 then .finite negative 0 leastExponent
  else if 400 < size then .infinite negative
  else
    match power with
    | .ofNat p => ofRatio negative (digits * Nat.pow 10 p) 1
    | .negSucc p => ofRatio negative digits (Nat.pow 10 (p + 1))

def toInt? : Binary64 → Option Int
  | .nan | .infinite _ => none
  | .finite negative mantissa exponent =>
    let magnitude? : Option Nat :=
      match exponent with
      | .ofNat e => some (mantissa * Nat.pow 2 e)
      | .negSucc e =>
        if mantissa % Nat.pow 2 (e + 1) == 0 then some (mantissa / Nat.pow 2 (e + 1)) else none
    magnitude?.map fun m => if negative then -(m : Int) else m

def negate : Binary64 → Binary64
  | .nan => .nan
  | .infinite negative => .infinite (!negative)
  | .finite negative mantissa exponent => .finite (!negative) mantissa exponent

def ofScaled (negative : Bool) (mantissa : Nat) (exponent : Int) : Binary64 :=
  match exponent with
  | .ofNat e => ofRatio negative (mantissa * Nat.pow 2 e) 1
  | .negSucc e => ofRatio negative mantissa (Nat.pow 2 (e + 1))

def times (x : Binary64) (mantissa : Nat) (exponent : Int) : Binary64 :=
  match x with
  | .finite negative m e => ofScaled negative (m * mantissa) (e + exponent)
  | x => x

/-- A sum of zero is negative only if both numbers are. -/
def plus : Binary64 → Binary64 → Binary64
  | .finite s m e, .finite t n f =>
    let least := min e f
    let units (negative : Bool) (mantissa : Nat) (exponent : Int) : Int :=
      let magnitude := mantissa * Nat.pow 2 (exponent - least).toNat
      if negative then -(magnitude : Int) else magnitude
    let sum := units s m e + units t n f
    ofScaled (sum < 0 || (sum == 0 && s && t)) sum.natAbs least
  | .infinite s, .infinite t => if s == t then .infinite s else .nan
  | .nan, _ | _, .nan => .nan
  | .infinite s, _ | _, .infinite s => .infinite s

def isZero : Binary64 → Bool
  | .finite _ mantissa _ => mantissa == 0
  | _ => false

def sameValue (x y : Binary64) : Bool :=
  x == y || (x.isZero && y.isZero)

end Binary64

end ContractScan
