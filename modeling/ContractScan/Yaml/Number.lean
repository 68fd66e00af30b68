import ContractScan.Number.Decimal
import ContractScan.Text.Integer
import ContractScan.Text.Pieces
import ContractScan.Yaml.Fault

/-! # Numbers in documents

Integers are in base two, eight, ten or sixteen by their first characters.
Numbers with colons are in base sixty. Lines between digits do not count.
-/

namespace ContractScan.Yaml

def splitSign : List Char → Except Fault (Bool × List Char)
  | [] => .error .emptyNumber
  | '-' :: rest => .ok (true, rest)
  | '+' :: rest => .ok (false, rest)
  | text => .ok (false, text)

def inRange {α : Type} : Option α → Except Fault α
  | some a => .ok a
  | none => .error .outOfRange

def sexagesimal (places : List Int) : Int :=
  places.foldl (fun n place => 60 * n + place) 0

def naturalValue (digits : List Char) : Except Fault Int :=
  match digits with
  | [] => .error .emptyNumber
  | ['0'] => .ok 0
  | '0' :: 'b' :: rest => inRange (Text.integerIn? 2 rest)
  | '0' :: 'x' :: rest => inRange (Text.integerIn? 16 rest)
  | '0' :: _ => inRange (Text.integerIn? 8 digits)
  | _ => inRange (((Text.pieces ':' digits).mapM Text.integer?).map sexagesimal)

def integerValue (text : List Char) : Except Fault Int := do
  let (negative, digits) ← splitSign (text.filter (· != '_'))
  let magnitude ← naturalValue digits
  return if negative then -magnitude else magnitude

/-- The sum of places that are worth a power of sixty and the powers above it, from the last
place on. -/
def sexagesimalReal : Binary64 → Nat → List Binary64 → Except Fault Binary64
  | sum, _, [] => .ok sum
  | sum, worth, place :: rest =>
    match Binary64.ofRatio false worth 1 with
    | .finite _ mantissa exponent =>
      sexagesimalReal (sum.plus (place.times mantissa exponent)) (60 * worth) rest
    | _ => .error .tooLarge

def realValue (text : List Char) : Except Fault Binary64 := do
  let (negative, number) ← splitSign ((text.filter (· != '_')).map Char.toLower)
  let word := String.ofList number
  if word == ".inf" then return .infinite negative
  if word == ".nan" then return .nan
  let places ← inRange ((Text.pieces ':' number).mapM Binary64.ofText?)
  let magnitude ← match places with
    | [place] => .ok place
    | places => sexagesimalReal (.finite false 0 Binary64.leastExponent) 1 places.reverse
  return if negative then magnitude.negate else magnitude

end ContractScan.Yaml
