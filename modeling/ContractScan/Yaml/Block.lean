import ContractScan.Yaml.Quoted

/-! # Block scalars

A block scalar is the lines below its sign that are indented deeper than the
block around it. Literal ones keep their line breaks; folded ones turn a single
break between two lines that start without a blank into a blank. What happens
to the breaks at the end is chosen by a sign.
-/

namespace ContractScan.Yaml

inductive Chomping where
  /-- Keeps one break. -/
  | clip
  | strip
  | keep
  deriving DecidableEq, Repr

def chompingOf? : Option Char → Option Chomping
  | some '+' => some .keep
  | some '-' => some .strip
  | _ => none

def readIncrement (p : Cursor) : Except Fault (Option Nat × Cursor) :=
  match p.peek with
  | some c =>
    if c == '0' then .error .malformed
    else if c.isDigit then .ok (some (c.toNat - 0x30), p.next)
    else .ok (none, p)
  | none => .ok (none, p)

def readBlockSigns (p : Cursor) : Except Fault (Chomping × Option Nat × Cursor) := do
  let (chomping, increment, q) ← match chompingOf? p.peek with
    | some chomping => do
      let (increment, q) ← readIncrement p.next
      pure (chomping, increment, q)
    | none => do
      let (increment, q) ← readIncrement p
      match increment, chompingOf? q.peek with
      | some _, some chomping => pure (chomping, increment, q.next)
      | _, _ => pure (Chomping.clip, increment, q)
  if q.atEndOr fun c => c == ' ' || isBreak c then return (chomping, increment, q)
  else throw .malformed

def skipIndent (indent : Nat) (p : Cursor) : Cursor :=
  let blanks := (p.rest.take (indent - p.column)).takeWhile (· == ' ')
  p.advance blanks.length

def blockBreaks (indent : Nat) : Nat → List Char → Cursor → List Char × Cursor
  | 0, done, p => (done, p)
  | fuel + 1, done, p =>
    match p.takeBreak? with
    | some (b, q) => blockBreaks indent fuel (done ++ [b]) (skipIndent indent q)
    | none => (done, p)

/-- Collects the breaks before the first line and finds the deepest column on the way. -/
def findIndent : Nat → List Char → Nat → Cursor → List Char × Nat × Cursor
  | 0, done, deepest, p => (done, deepest, p)
  | fuel + 1, done, deepest, p =>
    if p.isAt ' ' then findIndent fuel done (max deepest p.next.column) p.next
    else
      match p.takeBreak? with
      | some (b, q) => findIndent fuel (done ++ [b]) deepest q
      | none => (done, deepest, p)

/-- The lines of a block read so far, with the breaks after the last one. -/
structure BlockText where
  done : List Char
  lastBreak : List Char
  breaks : List Char
  place : Cursor
  deriving Repr

def blockLines (folded : Bool) (indent : Nat) : Nat → BlockText → BlockText
  | 0, b => b
  | fuel + 1, b =>
    if b.place.column != indent || b.place.atEnd then b
    else
      let startsBlank (p : Cursor) : Bool := p.peek.any isTabOrBlank
      let leading := startsBlank b.place
      let (line, p) := b.place.span (!isBreak ·)
      let (lastBreak, p) := match p.takeBreak? with
        | some (c, q) => ([c], q)
        | none => ([], p)
      let (breaks, p) := blockBreaks indent p.rest.length [] (skipIndent indent p)
      let done := b.done ++ b.breaks ++ line
      if p.column != indent || p.atEnd then { done, lastBreak, breaks, place := p }
      else
        let joint :=
          if folded && lastBreak == ['\n'] && !leading && !startsBlank p then
            if breaks.isEmpty then [' '] else []
          else lastBreak
        blockLines folded indent fuel { done := done ++ joint, lastBreak, breaks, place := p }

/-- Reads a block scalar; `p` stands at its first sign, and `outer` is the column of the block
around it. -/
def readBlock (folded : Bool) (outer : Int) (p : Cursor) : Except Fault (List Char × Cursor) := do
  let (chomping, increment, q) ← readBlockSigns p.next
  let q ← q.finishLine
  let least := max 1 (outer + 1).toNat
  let (breaks, indent, q) := match increment with
    | none =>
      let (breaks, deepest, q) := findIndent q.rest.length [] 0 q
      (breaks, max least deepest, q)
    | some increment =>
      let indent := least + increment - 1
      let (breaks, q) := blockBreaks indent q.rest.length [] (skipIndent indent q)
      (breaks, indent, q)
  let b := blockLines folded indent (q.rest.length + 1)
    { done := [], lastBreak := [], breaks, place := q }
  let tail := match chomping with
    | .strip => []
    | .clip => b.lastBreak
    | .keep => b.lastBreak ++ b.breaks
  return (b.done ++ tail, b.place)

end ContractScan.Yaml
