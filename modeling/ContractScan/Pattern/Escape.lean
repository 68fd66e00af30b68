import ContractScan.Pattern.Reading
import ContractScan.Text.CharacterName
import ContractScan.Text.HexDigit

/-! # Escapes and sets

A backslash gives the character after it a meaning of its own: a character by
its code or name, a kind of characters, a place, or a reference to a group.
-/

namespace ContractScan.Pattern

open Reader

def isHexDigit (c : Char) : Bool :=
  (Text.hexValue? c).isSome

def isOctalDigit (c : Char) : Bool :=
  '0' ≤ c && c ≤ '7'

def numeral (base : Nat) (digits : List Char) : Nat :=
  digits.foldl (fun n c => base * n + (Text.hexValue? c).getD 0) 0

def hexEscape (c : Char) (count : Nat) : Reader Nat := do
  let digits ← takeWhile isHexDigit count
  let text := '\\' :: c :: digits
  if digits.length != count then fail (.incompleteEscape (String.ofList text)) text.length
  let code := numeral 16 digits
  if 0x7FFFFFFF < code then throw .countTooLarge
  if 0x10FFFF < code then fail (.badEscape (String.ofList text)) text.length
  return code

def namedEscape : Reader Nat := do
  if !(← takeChar '\x7b') then fail .missingBrace
  let name ← takeName '\x7d' "character name"
  match Text.codeOfName? name with
  | some code => return code
  | none => fail (.unknownCharacterName (String.ofList name)) (name.length + 4)

/-- An escape that stands for one code in sets and elsewhere alike. -/
def controlEscape? : Char → Option Nat
  | 'a' => some 0x07
  | 'f' => some 0x0C
  | 'n' => some 0x0A
  | 'r' => some 0x0D
  | 't' => some 0x09
  | 'v' => some 0x0B
  | '\\' => some 0x5C
  | _ => none

def kindEscape? : Char → Option SetItem
  | 'd' => some (.kind .digit false)
  | 'D' => some (.kind .digit true)
  | 's' => some (.kind .space false)
  | 'S' => some (.kind .space true)
  | 'w' => some (.kind .word false)
  | 'W' => some (.kind .word true)
  | _ => none

def setEscape (c : Char) : Reader SetItem := do
  match controlEscape? c, kindEscape? c with
  | some code, _ => return .code code
  | none, some item => return item
  | none, none =>
    if c == 'b' then return .code 0x08
    else if c == 'x' then return .code (← hexEscape c 2)
    else if c == 'u' then return .code (← hexEscape c 4)
    else if c == 'U' then return .code (← hexEscape c 8)
    else if c == 'N' then return .code (← namedEscape)
    else if isOctalDigit c then
      let digits := c :: (← takeWhile isOctalDigit 2)
      let text := '\\' :: digits
      if 0o377 < numeral 8 digits then
        fail (.octalOutOfRange (String.ofList text)) text.length
      return .code (numeral 8 digits)
    else if c.isDigit || c.isAlpha then fail (.badEscape (String.ofList ['\\', c])) 2
    else return .code c.toNat

def charSet (flags : Flags) (items : List SetItem) (negated : Bool := false) : Node :=
  .chars { items, negated, folding := flags.folding, ascii := flags.contains .ascii }

/-- A reference to a group, or a code given by three octal digits. -/
def numberEscape (flags : Flags) (c : Char) : Reader Node := do
  let second ← takeWhile Char.isDigit 1
  let third ←
    if isOctalDigit c && second.all isOctalDigit && !second.isEmpty then takeWhile isOctalDigit 1
    else pure []
  let digits := c :: second ++ third
  let text := '\\' :: digits
  if !third.isEmpty then
    if 0o377 < numeral 8 digits then fail (.octalOutOfRange (String.ofList text)) text.length
    return charSet flags [.code (numeral 8 digits)]
  let index := numeral 10 digits
  let r ← get
  if r.groupCount ≤ index then fail (.unknownGroup index) (text.length - 1)
  if !r.isClosed index then fail .openGroup text.length
  checkLookbehind index
  return .backreference index flags.folding

def nodeEscape (flags : Flags) (c : Char) : Reader Node := do
  let ascii := flags.contains .ascii
  match controlEscape? c, kindEscape? c with
  | some code, _ => return charSet flags [.code code]
  | none, some item => return charSet flags [item]
  | none, none =>
    match c with
    | 'A' => return .anchor .textStart
    | 'Z' => return .anchor .textEnd
    | 'b' => return .anchor (.wordBoundary ascii)
    | 'B' => return .anchor (.notWordBoundary ascii)
    | 'x' => return charSet flags [.code (← hexEscape c 2)]
    | 'u' => return charSet flags [.code (← hexEscape c 4)]
    | 'U' => return charSet flags [.code (← hexEscape c 8)]
    | 'N' => return charSet flags [.code (← namedEscape)]
    | '0' =>
      let digits ← takeWhile isOctalDigit 2
      return charSet flags [.code (numeral 8 digits)]
    | c =>
      if c.isDigit then numberEscape flags c
      else if c.isAlpha then fail (.badEscape (String.ofList ['\\', c])) 2
      else return charSet flags [.code c.toNat]

def setMember : Symbol → Reader SetItem
  | .plain c => return .code c.toNat
  | .escaped c => setEscape c
  | .dangling => return .code 0x5C

/-- The members of a set up to its closing bracket; `opened` is the place of the opening one. -/
def setMembers (opened : Nat) : Nat → List SetItem → Reader (List SetItem)
  | 0, items => return items
  | fuel + 1, items => do
    match ← take with
    | none => failAt .unterminatedSet opened
    | some this =>
      if this == .plain ']' && !items.isEmpty then return items
      let first ← setMember this
      if !(← takeChar '-') then setMembers opened fuel (items ++ [first])
      else
        match ← take with
        | none => failAt .unterminatedSet opened
        | some (.plain ']') => return items ++ [first, .code 0x2D]
        | some that =>
          let last ← setMember that
          let fault := Fault.badRange (String.ofList this.chars) (String.ofList that.chars)
          let back := this.width + 1 + that.width
          match first, last with
          | .code low, .code high =>
            if high < low then fail fault back
            setMembers opened fuel (items ++ [.range low high])
          | _, _ => fail fault back

def readSet (flags : Flags) : Reader Node := do
  let opened := (← position) - 1
  let negated ← takeChar '^'
  let items ← setMembers opened ((← get).rest.length + 1) []
  return charSet flags items.eraseDups negated

end ContractScan.Pattern
