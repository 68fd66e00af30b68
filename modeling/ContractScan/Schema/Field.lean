import ContractScan.Number.Word
import ContractScan.Schema.Checked
import ContractScan.Text.Blank
import ContractScan.Text.Pieces
import ContractScan.Text.Utf8
import ContractScan.Value.Text

/-! # Fields of records

How the values of a document become the fields of a record. Texts are taken as
they are; integers and truth values are also read from texts and from numbers
that stand for them.
-/

namespace ContractScan.Field

def text : Value → Checked String
  | .str s => .ok s
  | .bytes octets =>
    match Text.decode? octets with
    | some chars => .ok (String.ofList chars)
    | none => .issue .notReadableText
  | _ => .issue .notText

def nonEmptyText (value : Value) : Checked String :=
  (text value).andThen fun s => if s.isEmpty then .issue .emptyText else .ok s

def optionalText : Value → Checked (Option String)
  | .null => .ok none
  | value => (text value).map some

def isSpace (c : Char) : Bool :=
  Text.isBlank c && !(0x1C ≤ c.toNat && c.toNat ≤ 0x1F)

/-- A minus sign and digits, of which a zero is the first only if it is the last. -/
def plainInteger (text : List Char) : Except IssueKind Int :=
  let (negative, digits) := match text with
    | '-' :: rest => (true, rest)
    | rest => (false, rest)
  match digits with
  | ['0'] => .ok 0
  | '0' :: _ => .error .unreadableInteger
  | _ =>
    let run := digits.takeWhile Char.isDigit
    if 4300 < run.length + negative.toNat then .error .integerTooLong
    else if run.isEmpty || run.length < digits.length then .error .unreadableInteger
    else
      let n : Int := run.foldl (fun n c => 10 * n + (c.toNat - 0x30)) (0 : Nat)
      .ok (if negative then -n else n)

/-- What follows zeros and underscores at the start. The last of them stays before a point and at
the end. -/
def withoutZeros? : List Char → Option (List Char)
  | '0' :: rest =>
    let isZero (c : Char) : Bool := c == '0' || c == '_'
    let last := (rest.takeWhile isZero).getLastD '0'
    match rest.dropWhile isZero with
    | [] => some [last]
    | '.' :: rest => some (last :: '.' :: rest)
    | c :: rest => if c.isDigit || c == '-' then some (c :: rest) else none
  | c :: rest => if c.isDigit || c == '-' then some (c :: rest) else none
  | [] => none

def withoutZeroFraction (text : List Char) : List Char :=
  let zeros := text.reverse.takeWhile (· == '0')
  match text.reverse.dropWhile (· == '0') with
  | '.' :: rest => if zeros.isEmpty then text else rest.reverse
  | _ => text

def withoutUnderscores (text : List Char) : List Char :=
  if (Text.pieces '_' text).any List.isEmpty then text else text.filter (· != '_')

/-- A plus sign, zeros at the start, a point with zeros after it, and underscores may be left
out. -/
def plainForm? (text : List Char) : Option (List Char) := do
  let digits ← match text with
    | '+' :: '-' :: _ => none
    | '+' :: rest => some rest
    | rest => some rest
  return withoutUnderscores (withoutZeroFraction (← withoutZeros? digits))

def integerText (text : String) : Checked Int :=
  let trimmed := ((text.toList.dropWhile isSpace).reverse.dropWhile isSpace).reverse
  match plainInteger trimmed with
  | .ok n => .ok n
  | .error .integerTooLong => .issue .integerTooLong
  | .error _ =>
    match (plainForm? trimmed).bind fun form => (plainInteger form).toOption with
    | some n => .ok n
    | none => .issue .unreadableInteger

def integerFloat (x : Binary64) : Checked Int :=
  match x with
  | .nan | .infinite _ => .issue .notFinite
  | x =>
    match x.toInt? with
    | none => .issue .fractional
    | some n =>
      if -wordBound < n && n < wordBound then .ok n else .issue .integerTooLong

def integer : Value → Checked Int
  | .int n => .ok n
  | .bool b => .ok (if b then 1 else 0)
  | .float x => integerFloat x
  | .str s => integerText s
  | _ => .issue .notInteger

def positive (value : Value) : Checked { n : Nat // 0 < n } :=
  (integer value).andThen fun n =>
    if h : 0 < n.toNat then .ok ⟨n.toNat, h⟩ else .issue .belowOne

def truthText (text : String) : Checked Bool :=
  let word := String.ofList (text.toList.map Char.toLower)
  if ["1", "true", "t", "yes", "y", "on"].contains word then .ok true
  else if ["0", "false", "f", "no", "n", "off"].contains word then .ok false
  else .issue .unreadableTruth

def truthNumber (n : Int) : Checked Bool :=
  if n == 0 then .ok false else if n == 1 then .ok true else .issue .unreadableTruth

def truth : Value → Checked Bool
  | .bool b => .ok b
  | .int n => if fitsWord n then truthNumber n else .issue .notTruth
  | .float x =>
    match x.toInt? with
    | some n => if -wordBound < n && n < wordBound then truthNumber n else .issue .notTruth
    | none => .issue .notTruth
  | .str s => truthText s
  | .bytes octets =>
    match Text.decode? octets with
    | some chars => truthText (String.ofList chars)
    | none => .issue .unreadableTruth
  | _ => .issue .notTruth

def items : Value → Checked (List Value)
  | .list items | .set items => .ok items
  | _ => .issue .notSequence

def required {α : Type} (entries : List (Value × Value)) (name : String)
    (check : Value → Checked α) : Checked α :=
  match Value.lookup entries name with
  | some value => (check value).under (.field name)
  | none => .issue .missing [.field name]

def optional {α : Type} (entries : List (Value × Value)) (name : String) (default : α)
    (check : Value → Checked α) : Checked α :=
  match Value.lookup entries name with
  | some value => (check value).under (.field name)
  | none => .ok default

def stepOfKey : Value → Step
  | .str s => .field s
  | .bool b => .index (if b then 1 else 0)
  | .int n => if fitsWord n then .index n else .field (toString n)
  | key => .field key.quoted

def strayKeys (known : List String) (entries : List (Value × Value)) : List Issue :=
  entries.filterMap fun (key, _) =>
    match key with
    | .str s => if known.contains s then none else some ⟨[.field s], .unknownField⟩
    | key => some ⟨[stepOfKey key], .keyNotText⟩

/-- A record with known fields only; `build` checks the fields. -/
def record {α : Type} (name : String) (known : List String)
    (build : List (Value × Value) → Checked α) : Value → Checked α
  | .map entries => (build entries).alongside (strayKeys known entries)
  | _ => .issue (.notRecord name)

end ContractScan.Field
