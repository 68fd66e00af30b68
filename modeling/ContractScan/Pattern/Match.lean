import ContractScan.Pattern.Basic

/-! # Matching

A matcher walks over the text with a cursor and hands every way of going on to
a continuation; the first way that the continuation accepts is the answer.
Alternatives are tried from left to right, and repetitions in the order that
their mode says. A repetition that has its least number of rounds makes no
further round from where its last one began, so rounds are bounded by the
text.
-/

namespace ContractScan.Pattern

/-- A place in a text: what stands before it, nearest first, and what stands after it. -/
structure Cursor where
  before : List Char
  after : List Char
  offset : Nat
  deriving DecidableEq, Repr

namespace Cursor

def start (text : List Char) : Cursor :=
  ⟨[], text, 0⟩

def next? (c : Cursor) : Option (Char × Cursor) :=
  match c.after with
  | [] => none
  | x :: rest => some (x, ⟨x :: c.before, rest, c.offset + 1⟩)

def back? : Nat → Cursor → Option Cursor
  | 0, c => some c
  | width + 1, c =>
    match c.before with
    | [] => none
    | x :: rest => back? width ⟨rest, x :: c.after, c.offset - 1⟩

def upTo (first last : Cursor) : List Char :=
  first.after.take (last.offset - first.offset)

end Cursor

structure Capture where
  index : Nat
  first : Cursor
  last : Cursor
  deriving DecidableEq, Repr

structure State where
  cursor : Cursor
  captures : List Capture := []
  deriving DecidableEq, Repr

namespace State

def capture? (s : State) (index : Nat) : Option Capture :=
  s.captures.find? (·.index == index)

def record (s : State) (index : Nat) (first : Cursor) : State :=
  { s with captures := ⟨index, first, s.cursor⟩ :: s.captures.filter (·.index != index) }

end State

abbrev Continuation := State → Option State

def isWordAt (ascii : Bool) : List Char → Bool
  | [] => false
  | c :: _ => CharKind.word.holds ascii c

def Anchor.holds (c : Cursor) : Anchor → Bool
  | .textStart => c.before.isEmpty
  | .lineStart => c.before.isEmpty || c.before.head? == some '\n'
  | .textEnd => c.after.isEmpty
  | .lastLineEnd => c.after.isEmpty || c.after == ['\n']
  | .lineEnd => c.after.isEmpty || c.after.head? == some '\n'
  | .wordBoundary ascii => isWordAt ascii c.before != isWordAt ascii c.after
  | .notWordBoundary ascii =>
    !(c.before.isEmpty && c.after.isEmpty) && isWordAt ascii c.before == isWordAt ascii c.after

/-- The code that stands for a character and all that a comparison takes for it. -/
def Folding.key (c : Char) : Folding → Nat
  | .exact => c.toNat
  | .ascii => Text.asciiLowerCode c.toNat
  | .full => Text.lowerCode c.toNat

def follow (folding : Folding) : List Char → Cursor → Option Cursor
  | [], c => some c
  | x :: rest, c =>
    match c.next? with
    | none => none
    | some (y, c') => if folding.key x == folding.key y then follow folding rest c' else none

/-- The places reached by up to `limit` characters of a set, the farthest first. -/
def reach (set : CharSet) (before : List Char) (offset : Nat) (found : List Cursor) :
    Nat → List Char → List Cursor
  | 0, _ => found
  | _ + 1, [] => found
  | limit + 1, x :: rest =>
    if set.contains x then
      reach set (x :: before) (offset + 1) (⟨x :: before, rest, offset + 1⟩ :: found) limit rest
    else found

/-- Tries the places from `c` on, over up to `limit` characters of a set, the nearest first and
none before `skip` characters. -/
def approach (set : CharSet) (s : State) (k : Continuation) :
    Nat → Nat → List Char → List Char → Nat → Option State
  | skip, limit, before, after, offset =>
    let here := if skip == 0 then k { s with cursor := ⟨before, after, offset⟩ } else none
    match here with
    | some r => some r
    | none =>
      match limit, after with
      | limit + 1, x :: rest =>
        if set.contains x then approach set s k (skip - 1) limit (x :: before) rest (offset + 1)
        else none
      | _, _ => none

abbrev Round := State → Continuation → Option State

/-- Whether one more round is allowed after `count` of them, the last begun at `last`. -/
def another (most : Option Nat) (count : Nat) (last : Option Nat) (s : State) : Bool :=
  most.all (count < ·) && last != some s.cursor.offset

def greedyRounds (round : Round) (least : Nat) (most : Option Nat) (k : Continuation) :
    Nat → Nat → Option Nat → State → Option State
  | 0, _, _, _ => none
  | fuel + 1, count, last, s =>
    if count < least then
      round s fun s' => greedyRounds round least most k fuel (count + 1) last s'
    else if another most count last s then
      match round s fun s' =>
          greedyRounds round least most k fuel (count + 1) (some s.cursor.offset) s' with
      | some r => some r
      | none => k s
    else k s

def lazyRounds (round : Round) (least : Nat) (most : Option Nat) (k : Continuation) :
    Nat → Nat → Option Nat → State → Option State
  | 0, _, _, _ => none
  | fuel + 1, count, last, s =>
    if count < least then
      round s fun s' => lazyRounds round least most k fuel (count + 1) last s'
    else
      match k s with
      | some r => some r
      | none =>
        if another most count last s then
          round s fun s' => lazyRounds round least most k fuel (count + 1) (some s.cursor.offset) s'
        else none

/-- As many rounds as there are, each taken as it first matches. -/
def possessiveRounds (round : Round) (least : Nat) (most : Option Nat) :
    Nat → Nat → Option Nat → State → Option State
  | 0, _, _, _ => none
  | fuel + 1, count, last, s =>
    if count < least then
      match round s some with
      | none => none
      | some s' => possessiveRounds round least most fuel (count + 1) last s'
    else if another most count last s then
      match round s some with
      | none => some s
      | some s' => possessiveRounds round least most fuel (count + 1) (some s.cursor.offset) s'
    else some s

def repeatChars (mode : RepeatMode) (least : Nat) (most : Option Nat) (set : CharSet) (s : State)
    (k : Continuation) : Option State :=
  let c := s.cursor
  match mode with
  | .lazy => approach set s k least (most.getD c.after.length) c.before c.after c.offset
  | .greedy =>
    let places := reach set c.before c.offset [c] (most.getD c.after.length) c.after
    (places.take (places.length - least)).findSome? fun place => k { s with cursor := place }
  | .possessive =>
    let places := reach set c.before c.offset [c] (most.getD c.after.length) c.after
    if least < places.length then
      (places.head?).bind fun place => k { s with cursor := place }
    else none

def roundLimit (least : Nat) (s : State) : Nat :=
  least + s.cursor.after.length + 2

def repeatRounds (mode : RepeatMode) (least : Nat) (most : Option Nat) (round : Round) (s : State)
    (k : Continuation) : Option State :=
  match mode with
  | .greedy => greedyRounds round least most k (roundLimit least s) 0 none s
  | .lazy => lazyRounds round least most k (roundLimit least s) 0 none s
  | .possessive => (possessiveRounds round least most (roundLimit least s) 0 none s).bind k

namespace Node

def run : Node → State → Continuation → Option State
  | .empty, s, k => k s
  | .chars set, s, k =>
    match s.cursor.next? with
    | none => none
    | some (x, c) => if set.contains x then k { s with cursor := c } else none
  | .anchor a, s, k => if a.holds s.cursor then k s else none
  | .seq first second, s, k => first.run s fun s' => second.run s' k
  | .alt first second, s, k =>
    match first.run s k with
    | some r => some r
    | none => second.run s k
  | .group index body, s, k => body.run s fun s' => k (s'.record index s.cursor)
  | .repetition mode least most (.chars set), s, k => repeatChars mode least most set s k
  | .repetition mode least most body, s, k =>
    repeatRounds mode least most (fun s k => body.run s k) s k
  | .backreference index folding, s, k =>
    match s.capture? index with
    | none => none
    | some capture =>
      match follow folding (capture.first.upTo capture.last) s.cursor with
      | none => none
      | some c => k { s with cursor := c }
  | .conditional index matched unmatched, s, k =>
    if (s.capture? index).isSome then matched.run s k else unmatched.run s k
  | .look direction negated body, s, k =>
    let place? := match direction with
      | .ahead => some s.cursor
      | .behind width => Cursor.back? width s.cursor
    let found? := match place? with
      | none => none
      | some place => body.run { s with cursor := place } some
    match found?, negated with
    | some found, false => k { s with captures := found.captures }
    | none, true => k s
    | _, _ => none
  | .atomic body, s, k =>
    match body.run s some with
    | none => none
    | some s' => k s'

end Node

structure Found where
  first : Cursor
  last : Cursor
  captures : List Capture
  deriving DecidableEq, Repr

namespace Found

def isEmpty (m : Found) : Bool :=
  m.first.offset == m.last.offset

def chars (m : Found) : List Char :=
  m.first.upTo m.last

def text (m : Found) : String :=
  String.ofList m.chars

def group? (m : Found) (index : Nat) : Option String :=
  (m.captures.find? (·.index == index)).map fun c => String.ofList (c.first.upTo c.last)

end Found

/-- The match that begins at a place. With `advance` it has to move on from there. -/
def matchAt (p : Node) (advance : Bool) (c : Cursor) : Option Found :=
  let accept : Continuation := fun s =>
    if advance && s.cursor.offset == c.offset then none else some s
  (p.run { cursor := c } accept).map fun s => ⟨c, s.cursor, s.captures⟩

/-- The first match at or after a place; only one right at the place has to move on. -/
def searchFrom (p : Node) : Bool → List Char → Nat → List Char → Option Found
  | advance, before, offset, after =>
    match matchAt p advance ⟨before, after, offset⟩ with
    | some m => some m
    | none =>
      match after with
      | [] => none
      | x :: rest => searchFrom p false (x :: before) (offset + 1) rest

def searchAt (p : Node) (advance : Bool) (c : Cursor) : Option Found :=
  searchFrom p advance c.before c.offset c.after

/-- Matches one after another, each from the end of the one before. After an empty match the next
one at its place has to move on. -/
def searchAll (p : Node) : Nat → Bool → Cursor → List Found
  | 0, _, _ => []
  | fuel + 1, advance, c =>
    match searchAt p advance c with
    | none => []
    | some m => m :: searchAll p fuel m.isEmpty m.last

def search (p : Node) (text : List Char) : Option Found :=
  searchAt p false (.start text)

def findAll (p : Node) (text : List Char) : List Found :=
  searchAll p (2 * text.length + 2) false (.start text)

/-- Puts `f` of the matched text in the place of every match; `rest` is the text from `offset` on. -/
def splice (f : List Char → List Char) : Nat → List Char → List Found → List Char
  | _, rest, [] => rest
  | offset, rest, m :: found =>
    rest.take (m.first.offset - offset) ++ f m.chars ++ splice f m.last.offset m.last.after found

def replaceAll (p : Node) (f : List Char → List Char) (text : List Char) : List Char :=
  splice f 0 text (findAll p text)

def matchesWhole (p : Node) (text : List Char) : Bool :=
  (p.run { cursor := .start text } fun s => if s.cursor.after.isEmpty then some s else none).isSome

end ContractScan.Pattern
