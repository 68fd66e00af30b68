import ContractScan.Number.Binary64
import ContractScan.Text.HexDigit
import ContractScan.Value.Basic

/-! # Reading JSON

A reader of one document. Besides the standard it takes `NaN` and the two
infinities. Of several entries with one key the last value counts, at the
place of the first. An integer of more than 4300 digits is refused apart from
the errors of form, so the first fault from the left decides.
-/

namespace ContractScan.Json

inductive ReadError where
  | malformed
  | integerTooLong
  deriving DecidableEq, Repr

def digitLimit : Nat := 4300

def isSpace (c : Char) : Bool :=
  c == ' ' || c == '\t' || c == '\n' || c == '\r'

def skipSpace (text : List Char) : List Char :=
  text.dropWhile isSpace

def readUnit : List Char → Option (Nat × List Char)
  | a :: b :: c :: d :: rest => do
    let a ← Text.hexValue? a
    let b ← Text.hexValue? b
    let c ← Text.hexValue? c
    let d ← Text.hexValue? d
    return (((a * 16 + b) * 16 + c) * 16 + d, rest)
  | _ => none

/-- A code unit, or two that stand for one character. Half of a pair alone becomes the
replacement character. -/
def readEscapedUnits (text : List Char) : Option (Char × List Char) := do
  let (first, rest) ← readUnit text
  let alone := if 0xD800 ≤ first && first ≤ 0xDFFF then Char.ofNat 0xFFFD else Char.ofNat first
  if 0xD800 ≤ first && first ≤ 0xDBFF then
    match rest with
    | '\\' :: 'u' :: more =>
      match readUnit more with
      | none => none
      | some (second, rest') =>
        if 0xDC00 ≤ second && second ≤ 0xDFFF then
          return (Char.ofNat (0x10000 + (first - 0xD800) * 0x400 + (second - 0xDC00)), rest')
        else return (alone, rest)
    | _ => return (alone, rest)
  else return (alone, rest)

def readEscape : List Char → Option (Char × List Char)
  | '"' :: rest => some ('"', rest)
  | '\\' :: rest => some ('\\', rest)
  | '/' :: rest => some ('/', rest)
  | 'b' :: rest => some (Char.ofNat 0x08, rest)
  | 'f' :: rest => some (Char.ofNat 0x0C, rest)
  | 'n' :: rest => some ('\n', rest)
  | 'r' :: rest => some ('\r', rest)
  | 't' :: rest => some ('\t', rest)
  | 'u' :: rest => readEscapedUnits rest
  | _ => none

/-- The rest of a text after its opening quote; `done` holds the characters read, last first. -/
def readChars : Nat → List Char → List Char → Option (String × List Char)
  | 0, _, _ => none
  | _ + 1, _, [] => none
  | fuel + 1, done, c :: rest =>
    if c == '"' then some (String.ofList done.reverse, rest)
    else if c == '\\' then
      match readEscape rest with
      | none => none
      | some (d, rest') => readChars fuel (d :: done) rest'
    else if c.toNat < 0x20 then none
    else readChars fuel (c :: done) rest

def readText (text : List Char) : Option (String × List Char) :=
  readChars (text.length + 1) [] text

def digitsValue (digits : List Char) : Nat :=
  digits.foldl (fun n c => 10 * n + (c.toNat - 0x30)) 0

def readExponent : List Char → Option (Int × List Char)
  | c :: rest =>
    if c == 'e' || c == 'E' then
      let (negative, rest) := match rest with
        | '-' :: more => (true, more)
        | '+' :: more => (false, more)
        | more => (false, more)
      let digits := rest.takeWhile Char.isDigit
      if digits.isEmpty then none
      else
        let size : Int := digitsValue digits
        some (if negative then -size else size, rest.dropWhile Char.isDigit)
    else none
  | [] => none

def readFraction : List Char → Option (List Char × List Char)
  | '.' :: rest =>
    let digits := rest.takeWhile Char.isDigit
    if digits.isEmpty then none else some (digits, rest.dropWhile Char.isDigit)
  | _ => none

def readNumber (negative : Bool) (text : List Char) : Except ReadError (Value × List Char) :=
  let whole := match text with
    | '0' :: _ => ['0']
    | _ => text.takeWhile Char.isDigit
  let rest := text.drop whole.length
  if whole.isEmpty then .error .malformed
  else
    let fraction? := readFraction rest
    let (fraction, rest) := fraction?.getD ([], rest)
    let exponent? := readExponent rest
    let (exponent, rest) := exponent?.getD (0, rest)
    if fraction?.isSome || exponent?.isSome then
      let digits := digitsValue (whole ++ fraction)
      .ok (.float (.ofDecimal negative digits (exponent - fraction.length)), rest)
    else if digitLimit < whole.length then .error .integerTooLong
    else
      let n : Int := digitsValue whole
      .ok (.int (if negative then -n else n), rest)

def ofOption {α : Type} : Option α → Except ReadError α
  | none => .error .malformed
  | some a => .ok a

mutual
def readValue : Nat → List Char → Except ReadError (Value × List Char)
  | 0, _ => .error .malformed
  | fuel + 1, text =>
    match text with
    | '"' :: rest => do
      let (s, rest) ← ofOption (readText rest)
      return (.str s, rest)
    | '[' :: rest =>
      match skipSpace rest with
      | ']' :: rest => .ok (.list [], rest)
      | rest => readItems fuel [] rest
    | '\x7b' :: rest =>
      match skipSpace rest with
      | '\x7d' :: rest => .ok (.map [], rest)
      | rest => readEntries fuel [] rest
    | 'n' :: 'u' :: 'l' :: 'l' :: rest => .ok (.null, rest)
    | 't' :: 'r' :: 'u' :: 'e' :: rest => .ok (.bool true, rest)
    | 'f' :: 'a' :: 'l' :: 's' :: 'e' :: rest => .ok (.bool false, rest)
    | 'N' :: 'a' :: 'N' :: rest => .ok (.float .nan, rest)
    | 'I' :: 'n' :: 'f' :: 'i' :: 'n' :: 'i' :: 't' :: 'y' :: rest =>
      .ok (.float (.infinite false), rest)
    | '-' :: 'I' :: 'n' :: 'f' :: 'i' :: 'n' :: 'i' :: 't' :: 'y' :: rest =>
      .ok (.float (.infinite true), rest)
    | '-' :: rest => readNumber true rest
    | text => readNumber false text

/-- The items of a list from the first of those not yet read; `done` holds the others, last
first. -/
def readItems : Nat → List Value → List Char → Except ReadError (Value × List Char)
  | 0, _, _ => .error .malformed
  | fuel + 1, done, text => do
    let (item, rest) ← readValue fuel text
    match skipSpace rest with
    | ',' :: rest => readItems fuel (item :: done) (skipSpace rest)
    | ']' :: rest => return (.list (item :: done).reverse, rest)
    | _ => .error .malformed

def readEntries : Nat → List (Value × Value) → List Char → Except ReadError (Value × List Char)
  | 0, _, _ => .error .malformed
  | fuel + 1, done, text =>
    match text with
    | '"' :: rest => do
      let (key, rest) ← ofOption (readText rest)
      match skipSpace rest with
      | ':' :: rest =>
        let (value, rest) ← readValue fuel (skipSpace rest)
        let done := (.str key, value) :: done
        match skipSpace rest with
        | ',' :: rest => readEntries fuel done (skipSpace rest)
        | '\x7d' :: rest => return (.map (Value.ofPairs done.reverse), rest)
        | _ => .error .malformed
      | _ => .error .malformed
    | _ => .error .malformed
end

def read (text : List Char) : Except ReadError Value := do
  let (value, rest) ← readValue (2 * text.length + 2) (skipSpace text)
  if (skipSpace rest).isEmpty then return value else .error .malformed

end ContractScan.Json
