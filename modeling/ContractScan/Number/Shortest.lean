import ContractScan.Number.Binary64

/-! # Shortest decimal text of a floating-point number

A number is written with the fewest digits that read back as it; of several
such decimals the nearest is taken, and of two equally near ones the one with
an even last digit.
-/

namespace ContractScan

namespace Binary64

/-- The reals that round to a positive finite number, over a common denominator; the ends belong to
them when `closed`. -/
structure Rounding where
  low : Nat
  value : Nat
  high : Nat
  denominator : Nat
  closed : Bool

/-- The half-way points to both neighbours; below a power of two the lower one is closer. -/
def rounding (mantissa : Nat) (exponent : Int) : Rounding :=
  let below := if mantissa == Nat.pow 2 52 && leastExponent < exponent then 1 else 2
  let above := Nat.pow 2 exponent.toNat
  { low := if 0 ≤ exponent then (4 * mantissa - below) * above else 4 * mantissa - below
    value := if 0 ≤ exponent then 4 * mantissa * above else 4 * mantissa
    high := if 0 ≤ exponent then (4 * mantissa + 2) * above else 4 * mantissa + 2
    denominator := if 0 ≤ exponent then 4 else 4 * Nat.pow 2 (-exponent).toNat
    closed := mantissa % 2 == 0 }

def Rounding.holds (r : Rounding) (digits : Nat) (power : Int) : Bool :=
  let (n, d) := decimal digits power
  let (low, point, high) := (r.low * d, n * r.denominator, r.high * d)
  if r.closed then low ≤ point && point ≤ high else low < point && point < high
where
  decimal (digits : Nat) : Int → Nat × Nat
    | .ofNat p => (digits * Nat.pow 10 p, 1)
    | .negSucc p => (digits, Nat.pow 10 (p + 1))

def Rounding.neighbours (r : Rounding) (power : Int) : Nat × Bool :=
  let (n, d) : Nat × Nat :=
    match power with
    | .ofNat p => (r.value, r.denominator * Nat.pow 10 p)
    | .negSucc p => (r.value * Nat.pow 10 (p + 1), r.denominator)
  (n / d, roundDiv n d == n / d)

def Rounding.magnitude (r : Rounding) : Int :=
  let whole := r.value / r.denominator
  if 0 < whole then ((Nat.toDigits 10 whole).length : Int) - 1
  else search 400 1
where
  search : Nat → Nat → Int
    | 0, p => -(p : Int)
    | fuel + 1, p =>
      if r.denominator ≤ r.value * Nat.pow 10 p then -(p : Int) else search fuel (p + 1)

/-- The first grid, from coarse to fine, with a neighbour that rounds to the number. -/
def Rounding.shortest (r : Rounding) : Nat × Int :=
  go 18 0
where
  go : Nat → Nat → Nat × Int
    | 0, _ => (0, 0)
    | fuel + 1, extra =>
      let power := r.magnitude - extra
      let (below, belowNearer) := r.neighbours power
      match r.holds below power, r.holds (below + 1) power with
      | true, true => (if belowNearer then below else below + 1, power)
      | true, false => (below, power)
      | false, true => (below + 1, power)
      | false, false => go fuel (extra + 1)

def dropZeros : Nat → Nat → Int → Nat × Int
  | 0, digits, power => (digits, power)
  | fuel + 1, digits, power =>
    if digits != 0 && digits % 10 == 0 then dropZeros fuel (digits / 10) (power + 1)
    else (digits, power)

/-- Positional from `10 ^ -4` up to `10 ^ 16`, else with an exponent of at least two digits. -/
def decimalText (digits : Nat) (power : Int) : String :=
  let figures := Nat.toDigits 10 digits
  let point : Int := figures.length + power
  if -4 < point && point ≤ 16 then
    if point ≤ 0 then
      String.ofList ("0.".toList ++ List.replicate (-point).toNat '0' ++ figures)
    else if figures.length ≤ point.toNat then
      String.ofList (figures ++ List.replicate (point.toNat - figures.length) '0' ++ ".0".toList)
    else
      String.ofList (figures.take point.toNat ++ '.' :: figures.drop point.toNat)
  else
    let exponent := point - 1
    let mark := if exponent < 0 then "e-" else "e+"
    let places := Nat.toDigits 10 exponent.natAbs
    let places := if places.length < 2 then '0' :: places else places
    let fraction := if figures.length == 1 then [] else '.' :: figures.drop 1
    String.ofList (figures.take 1 ++ fraction ++ mark.toList ++ places)

def text : Binary64 → String
  | .nan => "nan"
  | .infinite false => "inf"
  | .infinite true => "-inf"
  | .finite negative mantissa exponent =>
    let sign := if negative then "-" else ""
    if mantissa == 0 then sign ++ "0.0"
    else
      let (digits, power) := (rounding mantissa exponent).shortest
      let (digits, power) := dropZeros 20 digits power
      sign ++ decimalText digits power

end Binary64

end ContractScan
