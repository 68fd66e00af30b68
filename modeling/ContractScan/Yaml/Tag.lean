import ContractScan.Text.Pieces

/-! # Tags

A tag says how a node is to be read. A plain scalar without one takes it from
its text.
-/

namespace ContractScan.Yaml

inductive Tag where
  | null
  | truth
  | integer
  | real
  | binary
  | moment
  | text
  | sequence
  | mapping
  | set
  /-- A sequence of mappings with one entry each. -/
  | pairs
  /-- A key whose value is put in place of it. -/
  | merge
  /-- A key whose value stands for the whole mapping. -/
  | whole
  | other
  deriving DecidableEq, Repr

namespace Tag

def stem : String := "tag:yaml.org,2002:"

def words : List (String × Tag) :=
  [("null", .null), ("bool", .truth), ("int", .integer), ("float", .real), ("binary", .binary),
    ("timestamp", .moment), ("str", .text), ("seq", .sequence), ("map", .mapping), ("set", .set),
    ("omap", .pairs), ("pairs", .pairs), ("merge", .merge), ("value", .whole)]

def ofText (text : String) : Tag :=
  ((words.find? fun word => stem ++ word.1 == text).map (·.2)).getD .other

end Tag

def withoutLastBreak (text : List Char) : List Char :=
  if text.getLast? == some '\n' then text.dropLast else text

def truthWords : List (String × Bool) :=
  [("yes", true), ("no", false), ("true", true), ("false", false), ("on", true), ("off", false)]

def spellings (word : String) : List String :=
  [word, word.map Char.toUpper, word.capitalize]

def isTruthText (text : String) : Bool :=
  truthWords.any fun word => (spellings word.1).contains text

def isNullText (text : String) : Bool :=
  text == "~" || (spellings "null").contains text

def withoutSign : List Char → List Char
  | '+' :: rest => rest
  | '-' :: rest => rest
  | text => text

def isDigitOrLine (c : Char) : Bool :=
  c.isDigit || c == '_'

def isDigits : List Char → Bool
  | [] => false
  | c :: rest => c.isDigit && rest.all isDigitOrLine

def isSixtieth : List Char → Bool
  | [a] => a.isDigit
  | [a, b] => '0' ≤ a && a ≤ '5' && b.isDigit
  | _ => false

def isSexagesimal (text : List Char) : Bool :=
  match Text.pieces ':' text with
  | first :: second :: rest => isDigits first && (second :: rest).all isSixtieth
  | _ => false

/-- Integers are decimal, or have a mark for their base in front: `0b`, `0x`, or a zero. -/
def isIntegerText (text : List Char) : Bool :=
  let isHex (c : Char) : Bool :=
    c.isDigit || c == '_' || ('a' ≤ c && c ≤ 'f') || ('A' ≤ c && c ≤ 'F')
  match withoutSign text with
  | [] => false
  | ['0'] => true
  | '0' :: 'b' :: rest => !rest.isEmpty && rest.all fun c => c == '0' || c == '1' || c == '_'
  | '0' :: 'x' :: rest => !rest.isEmpty && rest.all isHex
  | '0' :: rest => rest.all fun c => c == '_' || ('0' ≤ c && c ≤ '7')
  | digits => isDigits digits || isSexagesimal digits

def isExponent : List Char → Bool
  | [] => true
  | e :: sign :: digits =>
    (e == 'e' || e == 'E') && (sign == '-' || sign == '+') && !digits.isEmpty &&
      digits.all Char.isDigit
  | _ => false

def isRealText (text : List Char) : Bool :=
  let number := withoutSign text
  let whole := number.takeWhile (· != '.')
  match number.dropWhile (· != '.') with
  | [] => false
  | _ :: fraction =>
    let exponent := fraction.dropWhile isDigitOrLine
    if whole.isEmpty then
      (spellings "inf").contains (String.ofList fraction) ||
        (number.length == text.length &&
          (["nan", "NaN", "NAN"].contains (String.ofList fraction) ||
            (isDigits (fraction.takeWhile isDigitOrLine) && isExponent exponent)))
    else (isDigits whole && isExponent exponent) || (isSexagesimal whole && exponent.isEmpty)

end ContractScan.Yaml
