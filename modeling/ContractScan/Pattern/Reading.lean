import ContractScan.Pattern.Fault
import ContractScan.Pattern.Flag
import ContractScan.Pattern.Symbol
import ContractScan.Pattern.Width

/-! # Reading symbols from left to right

A reader sees one symbol ahead. It keeps the flags for the whole pattern, the
groups opened so far with the widths of the closed ones, and the groups that
conditions refer to before they are read.
-/

namespace ContractScan.Pattern

/-- What has been read and what is left. `widths` has an entry for every group opened so far,
filled when the group is closed; `behindFrom` is the number of groups there were when the
outermost open look-behind began. -/
structure Reading where
  rest : List Symbol
  position : Nat
  flags : Flags
  widths : List (Option Width) := []
  names : List (String × Nat) := []
  behindFrom : Option Nat := none
  conditions : List (Nat × Nat) := []

abbrev Reader := StateT Reading (Except Error)

namespace Reader

def failAt {α : Type} (fault : Fault) (position : Nat) : Reader α :=
  throw (.fault fault (some position))

def fail {α : Type} (fault : Fault) (back : Nat := 0) : Reader α := do
  failAt fault ((← get).position - back)

def peek : Reader (Option Symbol) := do
  return (← get).rest.head?

def position : Reader Nat := do
  return (← get).position

/-- A backslash at the end is a fault as soon as it comes into sight. -/
def checkNext : Reader Unit := do
  let r ← get
  match r.rest with
  | [.dangling] => failAt .danglingBackslash r.position
  | _ => pure ()

def take : Reader (Option Symbol) := do
  let r ← get
  match r.rest with
  | [] => return none
  | s :: rest =>
    set { r with rest, position := r.position + s.width }
    checkNext
    return some s

def takeChar (c : Char) : Reader Bool := do
  if (← peek) == some (.plain c) then
    let _ ← take
    return true
  else return false

def takeWhile (p : Char → Bool) : Nat → Reader (List Char)
  | 0 => return []
  | limit + 1 => do
    match ← peek with
    | some (.plain c) =>
      if p c then
        let _ ← take
        return c :: (← takeWhile p limit)
      else return []
    | _ => return []

def takeName (terminator : Char) (what : String) : Reader (List Char) := do
  go ((← get).rest.length + 1) []
where
  go : Nat → List Char → Reader (List Char)
    | 0, name => return name
    | fuel + 1, name => do
      match ← take with
      | none =>
        if name.isEmpty then fail (.missingName what)
        else fail (.unterminatedName terminator) name.length
      | some s =>
        if s == .plain terminator then
          if name.isEmpty then fail (.missingName what) 1 else return name
        else go fuel (name ++ s.chars)

end Reader

namespace Reading

def groupCount (r : Reading) : Nat :=
  r.widths.length + 1

def isClosed (r : Reading) (index : Nat) : Bool :=
  match index with
  | 0 => false
  | index + 1 => (r.widths[index]?.join).isSome

def groupWidth (r : Reading) (index : Nat) : Width :=
  match index with
  | 0 => .zero
  | index + 1 => (r.widths[index]?.join).getD .zero

end Reading

/-- Inside a look-behind only groups closed before it may be referred to. -/
def Reader.checkLookbehind (index : Nat) : Reader Unit := do
  let r ← get
  match r.behindFrom with
  | none => pure ()
  | some limit =>
    if !r.isClosed index then Reader.fail .openGroup
    if limit ≤ index then Reader.fail .sameLookbehind

end ContractScan.Pattern
