import ContractScan.Text.HexDigit
import ContractScan.Yaml.Cursor

/-! # Quoted scalars

Between single quotes a quote is written twice. Between double quotes a
backslash starts an escape. In both a single line break counts as a blank,
further ones stay, and blanks around breaks do not count.
-/

namespace ContractScan.Yaml

def isTabOrBlank (c : Char) : Bool :=
  c == ' ' || c == '\t'

/-- Collects breaks and drops the blanks around them. A document marker cannot stand at the start
of a line. -/
def quotedBreaks : Nat → List Char → Cursor → Except Fault (List Char × Cursor)
  | 0, done, p => .ok (done, p)
  | fuel + 1, done, p =>
    if p.atMarker then .error .malformed
    else
      let q := p.skip isTabOrBlank
      match q.takeBreak? with
      | some (b, q) => quotedBreaks fuel (done ++ [b]) q
      | none => .ok (done, q)

def quotedGap (p : Cursor) : Except Fault (List Char × Cursor) := do
  let (blanks, q) := p.span isTabOrBlank
  if q.atEnd then throw .malformed
  match q.takeBreak? with
  | none => return (blanks, q)
  | some (b, q) =>
    let (breaks, q) ← quotedBreaks (q.rest.length + 1) [] q
    let first := if b != '\n' then [b] else if breaks.isEmpty then [' '] else []
    return (first ++ breaks, q)

def escaped? (c : Char) : Option Char :=
  [('0', '\x00'), ('a', '\x07'), ('b', '\x08'), ('t', '\t'), ('\t', '\t'), ('n', '\n'),
    ('v', '\x0b'), ('f', '\x0c'), ('r', '\r'), ('e', '\x1b'), (' ', ' '), ('"', '"'),
    ('\\', '\\'), ('/', '/'), ('N', '\u0085'), ('_', '\u00A0'), ('L', '\u2028'),
    ('P', '\u2029')].lookup c

def escapeWidth? (c : Char) : Option Nat :=
  [('x', 2), ('u', 4), ('U', 8)].lookup c

def readCode (width : Nat) (p : Cursor) : Except Fault (Char × Cursor) :=
  let digits := p.rest.take width
  match Text.hexNumber? digits with
  | none => .error .malformed
  | some code =>
    if digits.length < width then .error .malformed
    else if 0x80000000 ≤ code then .error .tooLarge
    else if 0x110000 ≤ code then .error .outOfRange
    else .ok (Char.ofNat code, p.advance width)

def readEscape (p : Cursor) : Except Fault (List Char × Cursor) :=
  match p.rest with
  | [] => .error .malformed
  | c :: _ =>
    match escaped? c with
    | some meaning => .ok ([meaning], p.next)
    | none =>
      match escapeWidth? c with
      | some width => do
        let (meaning, q) ← readCode width p.next
        return ([meaning], q)
      | none => if isBreak c then quotedBreaks (p.rest.length + 1) [] p.skipBreak
        else .error .malformed

def readDoubleFrom : Nat → List Char → Cursor → Except Fault (List Char × Cursor)
  | 0, _, _ => .error .malformed
  | fuel + 1, done, p =>
    match p.rest with
    | [] => .error .malformed
    | '"' :: _ => .ok (done.reverse, p.next)
    | '\\' :: _ => do
      let (text, q) ← readEscape p.next
      readDoubleFrom fuel (text.reverse ++ done) q
    | c :: _ =>
      if isGap c then do
        let (text, q) ← quotedGap p
        readDoubleFrom fuel (text.reverse ++ done) q
      else readDoubleFrom fuel (c :: done) p.next

def readSingleFrom : Nat → List Char → Cursor → Except Fault (List Char × Cursor)
  | 0, _, _ => .error .malformed
  | fuel + 1, done, p =>
    match p.rest with
    | [] => .error .malformed
    | '\x27' :: '\x27' :: _ => readSingleFrom fuel ('\x27' :: done) (p.advance 2)
    | '\x27' :: _ => .ok (done.reverse, p.next)
    | c :: _ =>
      if isGap c then do
        let (text, q) ← quotedGap p
        readSingleFrom fuel (text.reverse ++ done) q
      else readSingleFrom fuel (c :: done) p.next

def readDouble (p : Cursor) : Except Fault (List Char × Cursor) :=
  readDoubleFrom (p.rest.length + 1) [] p.next

def readSingle (p : Cursor) : Except Fault (List Char × Cursor) :=
  readSingleFrom (p.rest.length + 1) [] p.next

end ContractScan.Yaml
