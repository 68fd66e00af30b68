import ContractScan.Value.Basic
import ContractScan.Yaml.Fault
import ContractScan.Yaml.Tag

/-! # Dates and times in documents -/

namespace ContractScan.Yaml

def someDigits (least most : Nat) (text : List Char) : Option (Nat × List Char) :=
  let digits := (text.take most).takeWhile Char.isDigit
  if digits.length < least then none
  else some (digits.foldl (fun n c => 10 * n + (c.toNat - 0x30)) 0, text.drop digits.length)

def oneOf (allowed : List Char) : List Char → Option (List Char)
  | [] => none
  | c :: rest => if allowed.contains c then some rest else none

def readOffset (text : List Char) : Option (Option Int) :=
  match text.dropWhile fun c => c == ' ' || c == '\t' with
  | [] => if text.isEmpty then some none else none
  | ['Z'] => some (some 0)
  | sign :: rest => do
    let _ ← oneOf ['+', '-'] [sign]
    let (hours, rest) ← someDigits 1 2 rest
    let minutes ← match rest with
      | [] => some 0
      | ':' :: rest => do
        let (minutes, rest) ← someDigits 2 2 rest
        if rest.isEmpty then some minutes else none
      | _ => none
    let offset : Int := 60 * hours + minutes
    return some (if sign == '-' then -offset else offset)

def fractionOf (digits : List Char) : Nat :=
  (digits.take 6 ++ List.replicate (6 - digits.length) '0').foldl
    (fun n c => 10 * n + (c.toNat - 0x30)) 0

def readTime (text : List Char) : Option ((Nat × Nat × Nat × Nat) × Option Int) := do
  let rest ← match text with
    | 'T' :: rest => some rest
    | 't' :: rest => some rest
    | rest => do
      let rest ← oneOf [' ', '\t'] rest
      some (rest.dropWhile fun c => c == ' ' || c == '\t')
  let (hour, rest) ← someDigits 1 2 rest
  let rest ← oneOf [':'] rest
  let (minute, rest) ← someDigits 2 2 rest
  let rest ← oneOf [':'] rest
  let (second, rest) ← someDigits 2 2 rest
  let (fraction, rest) := match rest with
    | '.' :: rest => (fractionOf (rest.takeWhile Char.isDigit), rest.dropWhile Char.isDigit)
    | rest => (0, rest)
  return ((hour, minute, second, fraction), ← readOffset rest)

/-- Year, month and day with dashes between them, and a time after a `T` or blanks. The parts need
not make a date that exists. -/
def readMoment (text : List Char) : Option Moment := do
  let (year, rest) ← someDigits 4 4 text
  let rest ← oneOf ['-'] rest
  let (month, rest) ← someDigits 1 2 rest
  let rest ← oneOf ['-'] rest
  let (day, rest) ← someDigits 1 2 rest
  if rest.isEmpty then return { year, month, day }
  let (time, offset) ← readTime rest
  return { year, month, day, time := some time, offset }

/-- Texts that are taken for a moment: without a time, month and day need two digits. -/
def isMomentText (text : List Char) : Bool :=
  match readMoment text with
  | some m => m.time.isSome || text.length == 10
  | none => false

def isLeapYear (year : Nat) : Bool :=
  year % 4 == 0 && (year % 100 != 0 || year % 400 == 0)

def daysInMonth (year month : Nat) : Nat :=
  if month == 2 then if isLeapYear year then 29 else 28
  else if [4, 6, 9, 11].contains month then 30 else 31

def momentExists (m : Moment) : Bool :=
  let date := 1 ≤ m.year && 1 ≤ m.month && m.month ≤ 12 && 1 ≤ m.day &&
    m.day ≤ daysInMonth m.year m.month
  let time := match m.time with
    | some (hour, minute, second, _) => hour < 24 && minute < 60 && second < 60
    | none => true
  let offset := match m.offset with
    | some minutes => minutes.natAbs < 1440
    | none => true
  date && time && offset

def momentValue (text : List Char) : Except Fault Value :=
  match readMoment (withoutLastBreak text) with
  | none => .error .notMoment
  | some m => if momentExists m then .ok (.moment m) else .error .outOfRange

end ContractScan.Yaml
