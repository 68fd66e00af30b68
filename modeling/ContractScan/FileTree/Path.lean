import ContractScan.Text.Pieces

/-! # Paths

A path is a root and a list of names. Empty names and single dots are left out
when a text is read; double dots are kept.
-/

namespace ContractScan

/-- Where a path starts; two slashes at the start are kept apart from one. -/
inductive PathRoot where
  | relative
  | absolute
  | doubleSlash
  deriving DecidableEq, Repr

def PathRoot.text : PathRoot → String
  | .relative => ""
  | .absolute => "/"
  | .doubleSlash => "//"

structure Path where
  root : PathRoot
  names : List String
  deriving DecidableEq, Repr

namespace Path

def ofText (text : String) : Path :=
  let slashes := (text.toList.takeWhile (· == '/')).length
  let root : PathRoot :=
    if slashes == 0 then .relative else if slashes == 2 then .doubleSlash else .absolute
  let names := (Text.pieces '/' text.toList).map String.ofList
  ⟨root, names.filter fun name => name != "" && name != "."⟩

def text (p : Path) : String :=
  if p.names.isEmpty && p.root == .relative then "."
  else p.root.text ++ "/".intercalate p.names

def isAbsolute (p : Path) : Bool :=
  p.root != .relative

/-- A zero character ends names where files are looked up, so no such path can be asked for. -/
def hasZero (p : Path) : Bool :=
  p.names.any (·.toList.contains '\x00')

def name (p : Path) : String :=
  p.names.getLast?.getD ""

/-- The place of the point that starts a suffix: neither the first nor the last character. -/
def suffixStart? (name : List Char) : Option Nat :=
  let tail := (name.reverse.takeWhile (· != '.')).length
  let start := name.length - tail - 1
  if tail < name.length && 0 < start && 0 < tail then some start else none

def suffix (p : Path) : String :=
  let name := p.name.toList
  match suffixStart? name with
  | some start => String.ofList (name.drop start)
  | none => ""

def stem (p : Path) : String :=
  let name := p.name.toList
  match suffixStart? name with
  | some start => String.ofList (name.take start)
  | none => p.name

def parent (p : Path) : Path :=
  { p with names := p.names.dropLast }

/-- A path below another; an absolute one stands alone. -/
def join (p q : Path) : Path :=
  if q.isAbsolute then q else { p with names := p.names ++ q.names }

def child (p : Path) (name : String) : Path :=
  { p with names := p.names ++ [name] }

def withSuffix (p : Path) (suffix : String) : Path :=
  { p with names := p.names.dropLast ++ [p.stem ++ suffix] }

/-- Drops single steps up together with the names before them; `done` holds the names so far, last
first, and nothing is above the root. -/
def collapse : List String → List String → List String
  | done, [] => done.reverse
  | done, name :: rest =>
    if name == ".." then collapse (done.drop 1) rest else collapse (name :: done) rest

def resolve (p dir : Path) : Path :=
  ⟨.absolute, collapse [] (dir.join p).names⟩

def below? (p dir : Path) : Option (List String) :=
  if p.root == dir.root && p.names.take dir.names.length == dir.names then
    some (p.names.drop dir.names.length)
  else none

def sharedLength : List String → List String → Nat
  | a :: as, b :: bs => if a == b then sharedLength as bs + 1 else 0
  | _, _ => 0

/-- The way from a directory to an absolute path, without looking at what exists: steps up from the
directory to what both share, and then down. -/
def wayFrom (p dir : Path) : Path :=
  let up := collapse [] dir.names
  let down := collapse [] p.names
  let shared := sharedLength up down
  ⟨.relative, List.replicate (up.length - shared) ".." ++ down.drop shared⟩

def le (p q : List String) : Bool :=
  match p, q with
  | [], _ => true
  | _ :: _, [] => false
  | a :: as, b :: bs => if a == b then le as bs else decide (a < b)

end Path

end ContractScan
