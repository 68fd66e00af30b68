import ContractScan.Yaml.Cursor

/-! # Plain scalars

A plain scalar goes on over line breaks as long as the next line is indented
deeper than the block around it. A single break counts as a blank, further
ones stay. Inside brackets the indentation does not matter, and commas and
brackets end the scalar.
-/

namespace ContractScan.Yaml

def isFlowSign (c : Char) : Bool :=
  [',', '?', '[', ']', '\x7b', '\x7d'].contains c

def colonEnds (flow : Bool) : List Char → Bool
  | [] => true
  | c :: _ => isGap c || (flow && c != '?' && isFlowSign c)

def plainRun (flow : Bool) : List Char → List Char
  | [] => []
  | c :: rest =>
    if isGap c || (c == ':' && colonEnds flow rest) || (flow && isFlowSign c) then []
    else c :: plainRun flow rest

/-- What stands between two runs: how it is read, where it ends, and whether a line ended in it.
Nothing is read where the scalar cannot go on. -/
structure PlainGap where
  text : List Char
  place : Cursor
  broken : Bool
  deriving Repr

/-- Skips blanks and collects breaks; `none` in front of a document marker. -/
def plainBreaks : Nat → List Char → Cursor → Option (List Char) × Cursor
  | 0, done, p => (some done, p)
  | fuel + 1, done, p =>
    if p.isAt ' ' then plainBreaks fuel done p.next
    else
      match p.takeBreak? with
      | none => (some done, p)
      | some (b, q) => if q.atMarker then (none, q) else plainBreaks fuel (done ++ [b]) q

def plainGap (p : Cursor) : PlainGap :=
  let (blanks, q) := p.span (· == ' ')
  match q.takeBreak? with
  | none => { text := blanks, place := q, broken := false }
  | some (b, q) =>
    if q.atMarker then { text := [], place := q, broken := true }
    else
      match plainBreaks q.rest.length [] q with
      | (none, q) => { text := [], place := q, broken := true }
      | (some breaks, q) =>
        let first := if b != '\n' then [b] else if breaks.isEmpty then [' '] else []
        { text := first ++ breaks, place := q, broken := true }

/-- A plain scalar: its text, the place after it, and whether a line ended after its last run. -/
structure PlainScalar where
  text : List Char
  place : Cursor
  broken : Bool
  deriving Repr

def plainFrom (flow : Bool) (indent : Int) : Nat → List Char → PlainGap → PlainScalar
  | 0, done, gap => { text := done, place := gap.place, broken := gap.broken }
  | fuel + 1, done, gap =>
    let run := if gap.place.isAt '#' then [] else plainRun flow gap.place.rest
    if run.isEmpty then { text := done, place := gap.place, broken := gap.broken }
    else
      let done := done ++ gap.text ++ run
      let after := plainGap (gap.place.advance run.length)
      if after.text.isEmpty || after.place.isAt '#' || (!flow && after.place.column < indent) then
        { text := done, place := after.place, broken := after.broken }
      else plainFrom flow indent fuel done after

def readPlain (flow : Bool) (indent : Int) (p : Cursor) : PlainScalar :=
  plainFrom flow indent (p.rest.length + 1) [] { text := [], place := p, broken := false }

end ContractScan.Yaml
