import ContractScan.Yaml.Fault

/-! # Places in a document

A cursor is a place in a text with its index, line and column, all counted from
zero. Line breaks are the line feed, the carriage return, alone or with a line
feed after it, the next-line control and the two separators of Unicode. A byte
order mark takes no column.
-/

namespace ContractScan.Yaml

def isBreak (c : Char) : Bool :=
  c == '\n' || c == '\r' || c == '\u0085' || c == '\u2028' || c == '\u2029'

def isGap (c : Char) : Bool :=
  c == ' ' || c == '\t' || isBreak c

def isAllowed (c : Char) : Bool :=
  let code := c.toNat
  code == 0x09 || code == 0x0A || code == 0x0D || (0x20 ≤ code && code ≤ 0x7E) || code == 0x85 ||
    (0xA0 ≤ code && code ≤ 0xFFFD) || 0x10000 ≤ code

structure Cursor where
  rest : List Char
  index : Nat := 0
  line : Nat := 0
  column : Nat := 0
  deriving Repr

namespace Cursor

def peek (p : Cursor) : Option Char :=
  p.rest.head?

def isAt (p : Cursor) (c : Char) : Bool :=
  p.peek == some c

def atEndOr (p : Cursor) (test : Char → Bool) : Bool :=
  match p.rest with
  | [] => true
  | c :: _ => test c

def atEnd (p : Cursor) : Bool :=
  p.rest.isEmpty

def atLineEnd (p : Cursor) : Bool :=
  p.atEndOr isBreak

def next (p : Cursor) : Cursor :=
  match p.rest with
  | [] => p
  | c :: rest =>
    if isBreak c && !(c == '\r' && rest.head? == some '\n') then
      { rest, index := p.index + 1, line := p.line + 1 }
    else if c == '\uFEFF' then { p with rest, index := p.index + 1 }
    else { p with rest, index := p.index + 1, column := p.column + 1 }

def advance : Nat → Cursor → Cursor
  | 0, p => p
  | n + 1, p => advance n p.next

def span (p : Cursor) (test : Char → Bool) : List Char × Cursor :=
  let run := p.rest.takeWhile test
  (run, p.advance run.length)

def skip (p : Cursor) (test : Char → Bool) : Cursor :=
  (p.span test).2

def skipBlanks (p : Cursor) : Cursor :=
  p.skip (· == ' ')

def skipComment (p : Cursor) : Cursor :=
  if p.isAt '#' then p.skip (!isBreak ·) else p

/-- Reads a break. It counts as a line feed, apart from the two separators, which stay. -/
def takeBreak? (p : Cursor) : Option (Char × Cursor) :=
  match p.rest with
  | '\r' :: '\n' :: _ => some ('\n', p.advance 2)
  | c :: _ =>
    if c == '\u2028' || c == '\u2029' then some (c, p.next)
    else if isBreak c then some ('\n', p.next)
    else none
  | [] => none

def skipBreak (p : Cursor) : Cursor :=
  match p.takeBreak? with
  | some (_, q) => q
  | none => p

def finishLine (p : Cursor) : Except Fault Cursor :=
  let q := p.skipBlanks.skipComment
  if q.atLineEnd then .ok q.skipBreak else .error .malformed

def gapFollows : List Char → Bool
  | [] => true
  | c :: _ => isGap c

def atDocumentStart (p : Cursor) : Bool :=
  match p.rest with
  | '-' :: '-' :: '-' :: rest => gapFollows rest
  | _ => false

def atDocumentEnd (p : Cursor) : Bool :=
  match p.rest with
  | '.' :: '.' :: '.' :: rest => gapFollows rest
  | _ => false

def atMarker (p : Cursor) : Bool :=
  p.atDocumentStart || p.atDocumentEnd

end Cursor

end ContractScan.Yaml
