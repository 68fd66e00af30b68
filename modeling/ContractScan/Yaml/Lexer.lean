import ContractScan.Yaml.Block
import ContractScan.Yaml.Name
import ContractScan.Yaml.Plain

/-! # From text to tokens

Tokens are found from left to right, as they are asked for. Whether a scalar is
a key shows only at the colon after it, so its place among the tokens is
remembered until then. The colon has to follow on the same line, within 1024
characters. Indentation opens and closes blocks outside brackets.
-/

namespace ContractScan.Yaml

/-- A place where a key may have started. A required one has to turn out to be a key. -/
structure KeyPlace where
  /-- The number of tokens before it. -/
  token : Nat
  required : Bool
  index : Nat
  line : Nat
  column : Nat
  deriving Repr

/-- `tokens` are those found beyond the `taken` ones that were used already; `keys` holds at most
one place for each depth of brackets. -/
structure Lexer where
  place : Cursor
  /-- The length of the whole text. -/
  size : Nat
  indent : Int := -1
  outerIndents : List Int := []
  depth : Nat := 0
  keyAllowed : Bool := true
  keys : List (Nat × KeyPlace) := []
  tokens : List Token := []
  taken : Nat := 0
  finished : Bool := false
  deriving Repr

namespace Lexer

def inFlow (l : Lexer) : Bool :=
  l.depth != 0

def push (l : Lexer) (token : Token) : Lexer :=
  { l with tokens := l.tokens ++ [token] }

def insert (l : Lexer) (position : Nat) (token : Token) : Lexer :=
  let (before, after) := l.tokens.splitAt (position - l.taken)
  { l with tokens := before ++ token :: after }

def isStale (l : Lexer) (key : KeyPlace) : Bool :=
  key.line != l.place.line || 1024 < l.place.index - key.index

def dropStaleKeys (l : Lexer) : Except Fault Lexer :=
  if l.keys.any fun (_, key) => l.isStale key && key.required then .error .malformed
  else .ok { l with keys := l.keys.filter fun (_, key) => !l.isStale key }

def dropKey (l : Lexer) : Except Fault Lexer :=
  match l.keys.lookup l.depth with
  | none => .ok l
  | some key =>
    if key.required then .error .malformed
    else .ok { l with keys := l.keys.filter fun (depth, _) => depth != l.depth }

def saveKey (l : Lexer) : Except Fault Lexer := do
  if !l.keyAllowed then return l
  let required := !l.inFlow && l.indent == l.place.column
  let l ← l.dropKey
  let key : KeyPlace := {
    token := l.taken + l.tokens.length
    required
    index := l.place.index
    line := l.place.line
    column := l.place.column }
  return { l with keys := (l.depth, key) :: l.keys }

/-- Closes the blocks that start right of a column. The first argument bounds their number. -/
def closeBlocks : Nat → Int → Lexer → Lexer
  | 0, _, l => l
  | fuel + 1, column, l =>
    if column < l.indent then
      let outer := { l with
        indent := l.outerIndents.headD (-1)
        outerIndents := l.outerIndents.tail }
      closeBlocks fuel column (outer.push .blockEnd)
    else l

def unwind (l : Lexer) (column : Int) : Lexer :=
  if l.inFlow then l else closeBlocks (l.outerIndents.length + 1) column l

/-- Opens a block at a column unless one is open there; says whether it did. -/
def openBlock (l : Lexer) (column : Nat) : Bool × Lexer :=
  if l.indent < column then
    (true, { l with indent := column, outerIndents := l.indent :: l.outerIndents })
  else (false, l)

def skipGap : Nat → Lexer → Lexer
  | 0, l => l
  | fuel + 1, l =>
    let p := l.place.skipBlanks.skipComment
    match p.takeBreak? with
    | some (_, q) => skipGap fuel { l with place := q, keyAllowed := l.keyAllowed || !l.inFlow }
    | none => { l with place := p }

def sign (l : Lexer) (width : Nat) (token : Token) : Lexer :=
  { l with place := l.place.advance width }.push token

def endDocument (l : Lexer) : Except Fault Lexer := do
  let l ← (l.unwind (-1)).dropKey
  return { l with keyAllowed := false }

def streamEnd (l : Lexer) : Except Fault Lexer := do
  let l ← l.endDocument
  return { l with keys := [], finished := true }.push .streamEnd

def directive (l : Lexer) : Except Fault Lexer := do
  let l ← l.endDocument
  let (directive, place) ← readDirective l.place
  return { l with place }.push (.directive directive)

def marker (l : Lexer) (token : Token) : Except Fault Lexer := do
  return (← l.endDocument).sign 3 token

def flowStart (l : Lexer) (token : Token) : Except Fault Lexer := do
  let l ← l.saveKey
  return { l with depth := l.depth + 1, keyAllowed := true }.sign 1 token

def flowEnd (l : Lexer) (token : Token) : Except Fault Lexer := do
  let l ← l.dropKey
  return { l with depth := l.depth - 1, keyAllowed := false }.sign 1 token

def flowEntry (l : Lexer) : Except Fault Lexer := do
  let l ← { l with keyAllowed := true }.dropKey
  return l.sign 1 .flowEntry

def startBlock (l : Lexer) (token : Token) : Except Fault Lexer :=
  if l.inFlow then .ok l
  else if !l.keyAllowed then .error .malformed
  else
    match l.openBlock l.place.column with
    | (true, l) => .ok (l.push token)
    | (false, l) => .ok l

def blockEntry (l : Lexer) : Except Fault Lexer := do
  let l ← l.startBlock .blockSequenceStart
  let l ← { l with keyAllowed := true }.dropKey
  return l.sign 1 .blockEntry

def key (l : Lexer) : Except Fault Lexer := do
  let l ← l.startBlock .blockMappingStart
  let l ← { l with keyAllowed := !l.inFlow }.dropKey
  return l.sign 1 .key

/-- A colon turns the place remembered at this depth into a key; without one it follows a key
that has its own sign. -/
def value (l : Lexer) : Except Fault Lexer := do
  match l.keys.lookup l.depth with
  | some key =>
    let keys := l.keys.filter fun (depth, _) => depth != l.depth
    let l := { l with keys }.insert key.token .key
    let l :=
      if l.inFlow then l
      else
        match l.openBlock key.column with
        | (true, l) => l.insert key.token .blockMappingStart
        | (false, l) => l
    return { l with keyAllowed := false }.sign 1 .value
  | none =>
    let l ← l.startBlock .blockMappingStart
    let l ← { l with keyAllowed := !l.inFlow }.dropKey
    return l.sign 1 .value

def keyPart (l : Lexer) (read : Cursor → Except Fault (Token × Cursor)) : Except Fault Lexer := do
  let l ← l.saveKey
  let (token, place) ← read l.place
  return { l with place, keyAllowed := false }.push token

def reference (l : Lexer) : Except Fault Lexer :=
  l.keyPart fun p => do
    let (name, q) ← readAnchor p
    return (.reference name, q)

def anchor (l : Lexer) : Except Fault Lexer :=
  l.keyPart fun p => do
    let (name, q) ← readAnchor p
    return (.anchor name, q)

def tag (l : Lexer) : Except Fault Lexer :=
  l.keyPart fun p => do
    let (name, q) ← readTag p
    return (.tag name, q)

def quoted (l : Lexer) (read : Cursor → Except Fault (List Char × Cursor)) : Except Fault Lexer :=
  l.keyPart fun p => do
    let (text, q) ← read p
    return (.scalar text false, q)

def block (l : Lexer) (folded : Bool) : Except Fault Lexer := do
  let l ← { l with keyAllowed := true }.dropKey
  let (text, place) ← readBlock folded l.indent l.place
  return { l with place }.push (.scalar text false)

def plain (l : Lexer) : Except Fault Lexer := do
  let l ← l.saveKey
  let scalar := readPlain l.inFlow (l.indent + 1) l.place
  return { l with place := scalar.place, keyAllowed := scalar.broken }.push
    (.scalar scalar.text true)

def isIndicator (c : Char) : Bool :=
  ['-', '?', ':', ',', '[', ']', '\x7b', '\x7d', '#', '&', '*', '!', '|', '>', '\x27', '"', '%',
    '@', '\x60'].contains c

/-- Three of the signs start a plain scalar when a character follows, two of them only outside
brackets. -/
def startsPlain (l : Lexer) (c : Char) (rest : List Char) : Bool :=
  !(isGap c || isIndicator c) ||
    (!Cursor.gapFollows rest && (c == '-' || (!l.inFlow && (c == '?' || c == ':'))))

def token (l : Lexer) (c : Char) (rest : List Char) : Except Fault Lexer :=
  let lineStart := l.place.column == 0
  let gap := Cursor.gapFollows rest
  if c == '%' && lineStart then l.directive
  else if lineStart && l.place.atDocumentStart then l.marker .documentStart
  else if lineStart && l.place.atDocumentEnd then l.marker .documentEnd
  else if c == '[' then l.flowStart .flowSequenceStart
  else if c == '\x7b' then l.flowStart .flowMappingStart
  else if c == ']' then l.flowEnd .flowSequenceEnd
  else if c == '\x7d' then l.flowEnd .flowMappingEnd
  else if c == ',' then l.flowEntry
  else if c == '-' && gap then l.blockEntry
  else if c == '?' && (l.inFlow || gap) then l.key
  else if c == ':' && (l.inFlow || gap) then l.value
  else if c == '*' then l.reference
  else if c == '&' then l.anchor
  else if c == '!' then l.tag
  else if c == '|' && !l.inFlow then l.block false
  else if c == '>' && !l.inFlow then l.block true
  else if c == '\x27' then l.quoted readSingle
  else if c == '"' then l.quoted readDouble
  else if l.startsPlain c rest then l.plain
  else .error .malformed

def fetch (l : Lexer) : Except Fault Lexer := do
  let l ← (skipGap (l.place.rest.length + 1) l).dropStaleKeys
  let l := l.unwind l.place.column
  match l.place.rest with
  | [] => l.streamEnd
  | c :: rest => l.token c rest

/-- Finds tokens until there is one in front that no key can turn out to start with. -/
def settle : Nat → Lexer → Except Fault Lexer
  | 0, _ => .error .malformed
  | fuel + 1, l => do
    if l.finished then return l
    if l.tokens.isEmpty then settle fuel (← l.fetch)
    else
      let l ← l.dropStaleKeys
      if l.keys.any fun (_, key) => key.token == l.taken then settle fuel (← l.fetch) else return l

def peek (l : Lexer) : Except Fault (Token × Lexer) := do
  let l ← settle (l.size + 2) l
  match l.tokens with
  | token :: _ => return (token, l)
  | [] => throw .malformed

def skip (l : Lexer) : Lexer :=
  { l with tokens := l.tokens.tail, taken := l.taken + 1 }

def start (text : List Char) : Except Fault Lexer :=
  if text.all isAllowed then
    let place : Cursor := { rest := text }
    .ok { place := if place.isAt '\uFEFF' then place.next else place, size := text.length }
  else .error .malformed

end Lexer

end ContractScan.Yaml
