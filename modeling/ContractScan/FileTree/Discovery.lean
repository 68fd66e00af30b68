import ContractScan.FileTree.Basic
import ContractScan.Finding.Basic
import ContractScan.Log
import ContractScan.Text.LetterCase

/-! # Finding source files

Solidity files below a directory, in the order of paths. Directories can be
left out by name, either as they are written or without regard to case.
-/

namespace ContractScan.FileTree

def isSolidityName (names : List String) : Bool :=
  (names.getLast?.getD "").endsWith ".sol"

def solidityBelow (t : FileTree) (directory : Path) : List (List String) :=
  match t.locate directory with
  | .ok names => (t.filesBelow names).filter isSolidityName
  | .error _ => []

/-- Directories that symbolic execution leaves out, in any letter case. -/
def skippedDirectories : List String :=
  ["node_modules", "lib", "test", "tests", "mock", "mocks"]

def isSkipped (name : String) : Bool :=
  skippedDirectories.contains (String.ofList (Text.lowerText name.toList))

/-- The Solidity files that symbolic execution looks at: a single file, or those below a
directory. -/
def contractFiles (t : FileTree) (target : Path) : List Path :=
  if t.isFile target then
    if target.suffix == ".sol" then [target] else []
  else if t.isDirectory target then
    ((t.solidityBelow target).filter fun names => !names.dropLast.any isSkipped).map fun names =>
      { target with names := target.names ++ names }
  else []

/-- What rules are applied to: a single file of any name, or the Solidity files below a directory
outside the excluded directories. An unreadable file is passed over with a warning. -/
def collectSources (t : FileTree) (root : Path) (exclude : List String) :
    Logged (List SourceFile) :=
  let fragments := exclude.filter (· != "")
  let target := root.resolve t.base
  let (base, candidates) :=
    if t.isFile target then (target.parent, [[target.name]])
    else (target, t.solidityBelow target)
  let kept := candidates.filter fun names => !fragments.any (names.dropLast.contains ·)
  let read (names : List String) : SourceFile ⊕ LogRecord :=
    let relative := "/".intercalate names
    let path : Path := { base with names := base.names ++ names }
    match t.read path with
    | .ok content =>
      .inl ⟨relative, String.ofList (Text.unifyLineEnds content.lossyText)⟩
    | .error e =>
      .inr ⟨.warning, s!"Skipping unreadable file {relative}: {e.message path.text}"⟩
  let results := kept.map read
  { value := results.filterMap fun
      | .inl file => some file
      | .inr _ => none
    logs := results.filterMap fun
      | .inl _ => none
      | .inr record => some record }

end ContractScan.FileTree
