import ContractScan.Number.Word
import ContractScan.Source.Lines
import ContractScan.Source.Mask

/-! # Context of a place in a source text

A place is reported with its line, some lines around it, the contract and the
function it stands in. The contract is the first one that the text declares.
The function is the nearest one whose header comes before the place and whose
body is still open there.
-/

namespace ContractScan.Source

open Pattern

def unknownContract : String := "Unknown"

def contractDeclaration : Pattern :=
  .sequence [.anchor (.wordBoundary false), .literal "contract",
    .plus (.oneOf [.kind .space false]), .group 1 (.plus (.oneOf [.kind .word false]))]

/-- The word `function`, blanks, the name, and everything up to the brace that opens the body. -/
def functionHeader : Pattern :=
  .sequence [.anchor (.wordBoundary false), .literal "function",
    .plus (.oneOf [.kind .space false]), .group 1 (.plus (.oneOf [.kind .word false])),
    .star (.noneOf ['\x7b', ';']), .char '\x7b']

def contractName (text : List Char) : String :=
  ((search contractDeclaration text).bind (·.group? 1)).getD unknownContract

structure Header where
  name : String
  stop : Nat
  deriving DecidableEq, Repr

def headers (masked : List Char) : List Header :=
  (findAll functionHeader masked).map fun m => ⟨(m.group? 1).getD "", m.last.offset⟩

/-- Whether the brackets opened so far, `depth` of them, are still open at the end. -/
def staysOpen : Nat → List Char → Bool
  | depth, [] => 0 < depth
  | depth, c :: rest =>
    if c == '\x7b' then staysOpen (depth + 1) rest
    else if c == '\x7d' then
      if depth ≤ 1 then false else staysOpen (depth - 1) rest
    else staysOpen depth rest

def Header.isOpenAt (masked : List Char) (offset : Int) (h : Header) : Bool :=
  h.stop ≤ offset && staysOpen 0 ((before masked offset).drop (h.stop - 1))

def openFunction (masked : List Char) (headers : List Header) (offset : Int) : Option String :=
  (headers.reverse.find? (·.isOpenAt masked offset)).map (·.name)

inductive OffsetError where
  | tooLarge (offset : Int)
  deriving DecidableEq, Repr

/-- The function around an offset, from a search for headers that is bounded by it. The bound of a
search is a word. -/
def enclosingFunction (text : List Char) (offset : Int) : Except OffsetError (Option String) :=
  let masked := mask text
  if fitsWord offset then
    .ok (openFunction masked (headers (masked.take offset.toNat)) offset)
  else .error (.tooLarge offset)

theorem lineNumber_pos (text : List Char) (offset : Int) : 0 < lineNumber text offset :=
  Nat.succ_pos _

structure Context where
  lineNumber : Nat
  snippet : List Char
  contractName : String
  functionName : Option String
  lineNumber_pos : 0 < lineNumber
  deriving Repr

structure Index where
  text : List Char
  lines : List (List Char)
  contractName : String
  masked : List Char
  headers : List Header

def index (text : List Char) : Index :=
  let masked := mask text
  { text, lines := lines text, contractName := contractName text, masked,
    headers := headers masked }

def Index.contextAt (index : Index) (offset : Int) : Context :=
  let number := lineNumber index.text offset
  { lineNumber := number
    snippet := snippet index.lines number
    contractName := index.contractName
    functionName := openFunction index.masked index.headers offset
    lineNumber_pos := lineNumber_pos index.text offset }

def contextAt (text : List Char) (offset : Int) : Context :=
  (index text).contextAt offset

end ContractScan.Source
