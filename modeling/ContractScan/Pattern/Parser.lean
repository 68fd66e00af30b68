import ContractScan.Pattern.Escape
import ContractScan.Pattern.Group

/-! # Reading patterns

A pattern is a choice of sequences. Flags are settled while reading: those for
the whole pattern stand at its start.
-/

namespace ContractScan.Pattern

open Reader

def countBound : Nat := 4294967295

def countOf (digits : List Char) : Reader Nat := do
  if Text.digitLimit < digits.length then throw (.countTooLong digits.length)
  if countBound ≤ numeral 10 digits then throw .countTooLarge
  return numeral 10 digits

/-- How a repetition is bounded, or nothing when a brace stands for itself. -/
def readBounds (mark : Char) : Reader (Option (Nat × Option Nat)) := do
  let here ← position
  match mark with
  | '?' => return some (0, some 1)
  | '*' => return some (0, none)
  | '+' => return some (1, none)
  | _ =>
    if (← peek) == some (.plain '\x7d') then return none
    let saved ← get
    let size := saved.rest.length
    let low ← takeWhile Char.isDigit size
    let comma ← takeChar ','
    let high ← if comma then takeWhile Char.isDigit size else pure low
    if !(← takeChar '\x7d') then
      set saved
      return none
    let least ← countOf low
    if high.isEmpty then return some (least, none)
    let most ← countOf high
    if most < least then failAt .repeatBounds here
    return some (least, some most)

/-- A part of a sequence. A group without an effect of its own may hold what cannot be repeated
bare. -/
inductive Part where
  | bare (node : Node)
  | grouped (node : Node)

def Part.node : Part → Node
  | .bare node | .grouped node => node

def readMode : Reader RepeatMode := do
  if ← takeChar '?' then return .lazy
  else if ← takeChar '+' then return .possessive
  else return .greedy

/-- Repeats the last part; the first element of `parts` is the last one read. -/
def repeatLast (here : Nat) (least : Nat) (most : Option Nat) :
    List Part → Reader (List Part)
  | [] => failAt .nothingToRepeat (here - 1)
  | .bare (.anchor _) :: _ => failAt .nothingToRepeat (here - 1)
  | .bare (.repetition _ _ _ _) :: _ => failAt .multipleRepeat (here - 1)
  | last :: parts => do
    let mode ← readMode
    return .bare (.repetition mode least most last.node) :: parts

mutual
def readAlternatives : Nat → Bool → Flags → List Node → Reader Node
  | 0, _, _, _ => return .empty
  | fuel + 1, nested, flags, done => do
    let r ← get
    let flags := if nested then flags else r.flags
    let node ← readSequence fuel (!nested && done.isEmpty) flags []
    if ← takeChar '|' then readAlternatives fuel nested flags (node :: done)
    else return .alternatives (node :: done).reverse

/-- A sequence up to a bar, a closing bracket or the end; `first` says that it opens the pattern,
and the last part read stands first in `parts`. -/
def readSequence : Nat → Bool → Flags → List Part → Reader Node
  | 0, _, _, _ => return .empty
  | fuel + 1, first, flags, parts => do
    let finish := Node.sequence (parts.reverse.map Part.node)
    match ← peek with
    | none | some (.plain '|') | some (.plain ')') => return finish
    | some this =>
      let _ ← take
      match this with
      | .dangling => return finish
      | .escaped c =>
        let node ← nodeEscape flags c
        readSequence fuel first flags (.bare node :: parts)
      | .plain c =>
        let verbose := flags.contains .verbose
        if verbose && (c == ' ' || (0x09 ≤ c.toNat && c.toNat ≤ 0x0D)) then
          readSequence fuel first flags parts
        else if verbose && c == '#' then
          skipLine ((← get).rest.length + 1)
          readSequence fuel first flags parts
        else if c == '[' then
          let node ← readSet flags
          readSequence fuel first flags (.bare node :: parts)
        else if c == '*' || c == '+' || c == '?' || c == '\x7b' then
          let here ← position
          match ← readBounds c with
          | none => readSequence fuel first flags (.bare (charSet flags [.code c.toNat]) :: parts)
          | some (least, most) =>
            let parts ← repeatLast here least most parts
            readSequence fuel first flags parts
        else if c == '.' then
          let set := if flags.contains .dotAll then CharSet.any else .withinLine
          readSequence fuel first flags (.bare (.chars set) :: parts)
        else if c == '^' then
          let anchor := if flags.contains .multiline then Anchor.lineStart else .textStart
          readSequence fuel first flags (.bare (.anchor anchor) :: parts)
        else if c == '$' then
          let anchor := if flags.contains .multiline then Anchor.lineEnd else .lastLineEnd
          readSequence fuel first flags (.bare (.anchor anchor) :: parts)
        else if c == '(' then
          let opened := (← position) - 1
          match ← readOpening flags opened with
          | .comment => readSequence fuel first flags parts
          | .globalFlags =>
            if !first || !parts.isEmpty then failAt .lateGlobalFlags opened
            let r ← get
            readSequence fuel first r.flags parts
          | .reference node => readSequence fuel first flags (.bare node :: parts)
          | opening =>
            let part ← readGroup fuel flags opened opening
            readSequence fuel first flags (part :: parts)
        else readSequence fuel first flags (.bare (charSet flags [.code c.toNat]) :: parts)

def readGroup : Nat → Flags → Nat → Opening → Reader Part
  | 0, _, _, _ => return .bare .empty
  | fuel + 1, flags, opened, opening => do
    match opening with
    | .capture name =>
      let index ← openGroup name
      let body ← readAlternatives fuel true flags []
      expectClose opened
      closeGroup index body
      return .bare (.group index body)
    | .scoped on off =>
      let body ← readAlternatives fuel true (flags.within on off) []
      expectClose opened
      return .grouped body
    | .atomic =>
      let body ← readAlternatives fuel true flags []
      expectClose opened
      return .bare (.atomic body)
    | .look false negated =>
      let body ← readAlternatives fuel true flags []
      expectClose opened
      return .bare (.look .ahead negated body)
    | .look true negated =>
      let outer := (← get).behindFrom
      modify fun r => { r with behindFrom := outer.or (some r.groupCount) }
      let body ← readAlternatives fuel true flags []
      modify fun r => { r with behindFrom := outer }
      expectClose opened
      let width := body.width (← get).groupWidth
      return .bare (.look (.behind width.least) negated body)
    | .condition =>
      let index ← readCondition
      let matched ← readSequence fuel false flags []
      let unmatched ←
        if ← takeChar '|' then
          let unmatched ← readSequence fuel false flags []
          if (← peek) == some (.plain '|') then fail .manyBranches
          pure unmatched
        else pure .empty
      expectClose opened
      return .bare (.conditional index matched unmatched)
    | _ =>
      let body ← readAlternatives fuel true flags []
      expectClose opened
      return .grouped body
end

def RepeatMode.operator : RepeatMode → String
  | .greedy => "MAX_REPEAT"
  | .lazy => "MIN_REPEAT"
  | .possessive => "POSSESSIVE_REPEAT"

/-- The body of a look-behind has to be of one width, and not too wide. -/
def Width.behindFault? (width : Width) : Option Fault :=
  if 4294967295 < width.least then some .lookbehindTooFar
  else if !width.isFixed then some .lookbehindWidth
  else none

/-- The first fault, in reading order, among those that show only once all groups are read. -/
def Node.fault? (groups : Nat → Width) (template : Bool) : Node → Option Fault
  | .empty | .chars _ | .anchor _ | .backreference _ _ => none
  | .seq first second | .alt first second | .conditional _ first second =>
    (first.fault? groups template).or (second.fault? groups template)
  | .group _ body | .atomic body | .look .ahead _ body => body.fault? groups template
  | .look (.behind _) _ body =>
    (body.width groups).behindFault?.or (body.fault? groups template)
  | .repetition mode _ _ body =>
    if template then some (.templateRepeat mode.operator) else body.fault? groups template

def checkWhole (node : Node) : Reader Unit := do
  let r ← get
  if r.flags.contains .ascii && r.flags.contains .unicode then throw .asciiAndFullFlags
  if r.rest.head?.isSome then fail .unbalanced
  for (index, place) in r.conditions do
    if r.groupCount ≤ index then failAt (.unknownGroup index) place
  match node.fault? r.groupWidth (r.flags.contains .template) with
  | some fault => throw (.fault fault none)
  | none => pure ()

def readPattern (fuel : Nat) : Reader Node := do
  checkNext
  let node ← readAlternatives fuel false [] []
  checkWhole node
  return node

def parse (text : List Char) (flags : Flags) : Except Error Node := do
  let rest := symbols text
  let (node, _) ← (readPattern (3 * rest.length + 10)).run { rest, position := 0, flags }
  return node

end ContractScan.Pattern
