import ContractScan.Number.Binary64

/-! # Document values

Rule documents and analyzer reports are read into one type of values. Mappings
keep the order of their entries, and a key stands at most once; keys need not
be texts.
-/

namespace ContractScan

/-- A calendar date, with a time of day and an offset from universal time in minutes where they
are given. -/
structure Moment where
  year : Nat
  month : Nat
  day : Nat
  time : Option (Nat × Nat × Nat × Nat) := none
  offset : Option Int := none
  deriving DecidableEq, Repr, Inhabited

/-- The day in the calendar, counted from the first of March of the year zero. -/
def Moment.dayNumber (m : Moment) : Nat :=
  let year := if m.month ≤ 2 then m.year - 1 else m.year
  365 * year + year / 4 - year / 100 + year / 400 + (306 * ((m.month + 9) % 12) + 5) / 10 + m.day

def Moment.same (a b : Moment) : Bool :=
  match a.time, a.offset, b.time, b.offset with
  | some (h, m, time), some x, some (k, n, later), some y =>
    let minutes (day hour minute : Nat) (offset : Int) : Int :=
      1440 * day + 60 * hour + minute - offset
    minutes a.dayNumber h m x == minutes b.dayNumber k n y && time == later
  | _, _, _, _ => a == b

inductive Value where
  | null
  | bool (value : Bool)
  | int (value : Int)
  | float (value : Binary64)
  | str (value : String)
  | bytes (value : List UInt8)
  | moment (value : Moment)
  | list (items : List Value)
  | set (items : List Value)
  | map (entries : List (Value × Value))
  deriving Repr, Inhabited

namespace Value

/-- The number that a value counts as in comparisons: truth values are one and zero. -/
def number? : Value → Option (Int ⊕ Binary64)
  | .bool b => some (.inl (if b then 1 else 0))
  | .int n => some (.inl n)
  | .float x =>
    match x.toInt? with
    | some n => some (.inl n)
    | none => some (.inr x)
  | _ => none

/-- Equality of values that can be keys: numbers by value whatever their kind, texts as they
stand. Lists and mappings are never keys. -/
def sameKey (a b : Value) : Bool :=
  match a.number?, b.number? with
  | some (.inl m), some (.inl n) => m == n
  | some (.inr x), some (.inr y) => x.sameValue y
  | some _, _ | _, some _ => false
  | none, none =>
    match a, b with
    | .null, .null => true
    | .str s, .str t => s == t
    | .bytes s, .bytes t => s == t
    | .moment s, .moment t => s.same t
    | _, _ => false

def isKey : Value → Bool
  | .list _ | .set _ | .map _ => false
  | _ => true

def truthy : Value → Bool
  | .null => false
  | .bool b => b
  | .int n => n != 0
  | .float x => !x.isZero
  | .str s => !s.isEmpty
  | .bytes b => !b.isEmpty
  | .moment _ => true
  | .list items => !items.isEmpty
  | .set items => !items.isEmpty
  | .map entries => !entries.isEmpty

def lookup (entries : List (Value × Value)) (key : String) : Option Value :=
  (entries.find? fun entry => entry.1.sameKey (.str key)).map (·.2)

/-- Puts an entry: an old key keeps its place and takes the new value. -/
def put (entries : List (Value × Value)) (key value : Value) : List (Value × Value) :=
  if entries.any (·.1.sameKey key) then
    entries.map fun entry => if entry.1.sameKey key then (entry.1, value) else entry
  else entries ++ [(key, value)]

def ofPairs (pairs : List (Value × Value)) : List (Value × Value) :=
  pairs.foldl (fun entries pair => put entries pair.1 pair.2) []

def record (fields : List (String × Value)) : Value :=
  .map (fields.map fun field => (.str field.1, field.2))

def ofOption : Option String → Value
  | none => .null
  | some s => .str s

end Value

end ContractScan
