import ContractScan.FileTree.Path
import ContractScan.Text.Quoted
import ContractScan.Text.Utf8

/-! # File trees

A tree of files and directories below one absolute place, which is also where
relative paths start. Paths are followed name by name: a name has to exist
before anything, a step up included, can follow it.
-/

namespace ContractScan

inductive FileError where
  | notFound
  | denied
  | exists
  | notDirectory
  | isDirectory
  deriving DecidableEq, Repr

namespace FileError

def code : FileError → Nat
  | .notFound => 2
  | .denied => 13
  | .exists => 17
  | .notDirectory => 20
  | .isDirectory => 21

def wording : FileError → String
  | .notFound => "No such file or directory"
  | .denied => "Permission denied"
  | .exists => "File exists"
  | .notDirectory => "Not a directory"
  | .isDirectory => "Is a directory"

def message (e : FileError) (path : String) : String :=
  s!"[Errno {e.code}] {e.wording}: {Text.quoted path}"

end FileError

/-- What a file holds: a text, or octets as they are. -/
inductive Content where
  | text (text : String)
  | octets (octets : List UInt8)
  deriving DecidableEq, Repr

namespace Content

def lossyText : Content → List Char
  | .text s => s.toList
  | .octets data => Text.decodeLossy data

def text? : Content → Option (List Char)
  | .text s => some s.toList
  | .octets data => Text.decode? data

def octetList : Content → List UInt8
  | .text s => s.toUTF8.toList
  | .octets data => data

def size : Content → Nat
  | .text s => s.utf8ByteSize
  | .octets data => data.length

def appendText (content : Content) (more : String) : Content :=
  match content with
  | .text s => .text (s ++ more)
  | .octets data => .octets (data ++ more.toUTF8.toList)

end Content

inductive FileNode where
  | directory
  | file (content : Content)
  deriving DecidableEq, Repr

/-- `nodes` maps the names from the root to what is there; `locked` lists files that cannot be
read. -/
structure FileTree where
  base : Path
  nodes : List (List String × FileNode) := []
  locked : List (List String) := []
  deriving Repr

namespace FileTree

/-- The root is a directory. -/
def node? (t : FileTree) (names : List String) : Option FileNode :=
  if names.isEmpty then some .directory else t.nodes.lookup names

def put (t : FileTree) (names : List String) (node : FileNode) : FileTree :=
  if (t.nodes.lookup names).isSome then
    { t with nodes := t.nodes.map fun entry => if entry.1 == names then (names, node) else entry }
  else { t with nodes := t.nodes ++ [(names, node)] }

def follow (t : FileTree) : List String → List String → Except FileError (List String)
  | place, [] => .ok place
  | place, name :: rest =>
    match t.node? place with
    | none => .error .notFound
    | some (.file _) => .error .notDirectory
    | some .directory =>
      if name == ".." then
        if place.isEmpty then .error .notFound else t.follow place.dropLast rest
      else
        let next := place ++ [name]
        if (t.node? next).isSome then t.follow next rest else .error .notFound

def namesOf (t : FileTree) (p : Path) : Except FileError (List String) :=
  if p.isAbsolute then
    match p.below? t.base with
    | some names => .ok names
    | none => .error .notFound
  else .ok p.names

def locate (t : FileTree) (p : Path) : Except FileError (List String) := do
  t.follow [] (← t.namesOf p)

def at? (t : FileTree) (p : Path) : Option FileNode :=
  match t.locate p with
  | .ok names => t.node? names
  | .error _ => none

def pathExists (t : FileTree) (p : Path) : Bool :=
  (t.at? p).isSome

def isDirectory (t : FileTree) (p : Path) : Bool :=
  t.at? p == some .directory

def isFile (t : FileTree) (p : Path) : Bool :=
  match t.at? p with
  | some (.file _) => true
  | _ => false

def read (t : FileTree) (p : Path) : Except FileError Content := do
  let names ← t.locate p
  match t.node? names with
  | some (.file content) => if t.locked.contains names then .error .denied else .ok content
  | some .directory => .error .isDirectory
  | none => .error .notFound

/-- Where a new entry would stand: its directory has to exist. -/
def place (t : FileTree) (p : Path) : Except FileError (List String) := do
  let names ← t.namesOf p
  match names.getLast? with
  | none => .ok []
  | some ".." => t.follow [] names
  | some name =>
    let directory ← t.follow [] names.dropLast
    match t.node? directory with
    | some .directory => .ok (directory ++ [name])
    | _ => .error .notDirectory

def write (t : FileTree) (p : Path) (text : String) : Except FileError FileTree := do
  let names ← t.place p
  match t.node? names with
  | some .directory => .error .isDirectory
  | _ => .ok (t.put names (.file (.text text)))

def makeDirectory (t : FileTree) (p : Path) : Except FileError FileTree := do
  let names ← t.place p
  if (t.node? names).isSome then .error .exists else .ok (t.put names .directory)

/-- Steps that change a tree; what was done before a failure stays. -/
abbrev Edit := ExceptT FileError (StateM FileTree)

def edit (change : FileTree → Except FileError FileTree) : Edit Unit := do
  match change (← get) with
  | .ok t => set t
  | .error e => throw e

def ensureDirectory (p : Path) : Edit Unit := do
  let t ← get
  match t.makeDirectory p with
  | .ok t => set t
  | .error e => if t.isDirectory p then pure () else throw e

/-- Creates a directory and those above it. What exists already has to be a directory. The first
argument bounds the steps up. -/
def ensureDirectories : Nat → Path → Edit Unit
  | 0, p => ensureDirectory p
  | steps + 1, p => do
    match (← get).makeDirectory p with
    | .error .notFound =>
      ensureDirectories steps p.parent
      ensureDirectory p
    | _ => ensureDirectory p

def ensureParent (p : Path) : Edit Unit :=
  ensureDirectories p.names.length p.parent

/-- A file being written: where it stands, and how many octets were written so far. -/
structure OpenFile where
  place : List String
  written : Nat := 0
  deriving DecidableEq, Repr

def openNew (p : Path) : Edit OpenFile := do
  ensureParent p
  edit (·.write p "")
  let place ← (← get).place p
  return { place }

/-- Puts octets at a position; a gap before it is filled with zeros. -/
def overlay (old : List UInt8) (position : Nat) (new : List UInt8) : List UInt8 :=
  old.take position ++ List.replicate (position - old.length) 0 ++ new
    ++ old.drop (position + new.length)

/-- Writes on where the last write to an open file ended, whatever the file holds by now. -/
def writeNext (t : FileTree) (file : OpenFile) (text : String) : FileTree × OpenFile :=
  let old := match t.node? file.place with
    | some (.file content) => content
    | _ => .text ""
  let content := if old.size == file.written then old.appendText text
    else .octets (overlay old.octetList file.written text.toUTF8.toList)
  (t.put file.place (.file content), { file with written := file.written + text.utf8ByteSize })

def plant (t : FileTree) (names : List String) (node : FileNode) : FileTree :=
  let above := (List.range names.length).map names.take
  let t := above.foldl (fun t dir => if (t.node? dir).isSome then t else t.put dir .directory) t
  t.put names node

def files (t : FileTree) : List (List String × Content) :=
  t.nodes.filterMap fun (names, node) =>
    match node with
    | .file content => some (names, content)
    | .directory => none

/-- The files below a directory, by their names from there on, in the order of paths. -/
def filesBelow (t : FileTree) (directory : List String) : List (List String) :=
  let below := t.nodes.filterMap fun (names, node) =>
    match node with
    | .file _ =>
      if names.take directory.length == directory && directory.length < names.length then
        some (names.drop directory.length)
      else none
    | .directory => none
  below.mergeSort Path.le

end FileTree

end ContractScan
