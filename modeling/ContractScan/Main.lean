import ContractScan.Command.Run
import ContractScan.Report.Display
import ContractScan.Yaml.Reader
import Std.Time

/-! # The program

Commands run on the files below the working directory. Only contracts and files
that an argument names are read. No analyzer is called: each one counts as not
installed.
-/

namespace ContractScan.Program

def noLauncher : Launcher := fun _ => .notLaunched "not found"

def twoDigits (n : Int) : String :=
  if n < 10 then s!"0{n}" else toString n

def now : IO String := do
  let t := Std.Time.DateTime.ofTimestampWithZone (← Std.Time.Timestamp.now) .UTC
  let date := s!"{t.year.toInt}-{twoDigits t.month.val}-{twoDigits t.day.val}"
  let time := s!"{twoDigits t.hour.val}:{twoDigits t.minute.val}:{twoDigits t.second.val}"
  let micros := toString (t.nanosecond.val / 1000)
  let zeros := "".pushn '0' (6 - micros.length)
  return s!"{date}T{time}.{zeros}{micros}+00:00"

/-- Whether the content of a file can matter. -/
def isRead (args names : List String) : Bool :=
  let path := "/".intercalate names
  path.endsWith ".sol" || args.any fun arg =>
    (Path.ofText arg).names == names || (splitOption arg).2.any fun value =>
      (Path.ofText value).names == names

def addFile (args names : List String) (tree : FileTree) : IO FileTree := do
  if !isRead args names then return tree.plant names (.file (.text ""))
  try
    let data ← IO.FS.readBinFile ("/".intercalate names)
    return tree.plant names (.file (.octets data.toList))
  catch _ =>
    return { tree.plant names (.file (.text "")) with locked := names :: tree.locked }

/-- The files below the working directory. -/
partial def addDirectory (args names : List String) (tree : FileTree) : IO FileTree := do
  let directory := (← IO.currentDir) / "/".intercalate names
  let mut tree := tree
  for entry in ← directory.readDir do
    let names := names ++ [entry.fileName]
    if ← entry.path.isDir then
      tree ← addDirectory args names (tree.plant names .directory)
    else tree ← addFile args names tree
  return tree

def writeChanges (old new : FileTree) : IO Unit := do
  for (names, content) in new.files do
    if old.node? names != some (.file content) then
      if 1 < names.length then IO.FS.createDirAll ("/".intercalate names.dropLast)
      IO.FS.writeBinFile ("/".intercalate names) ⟨content.octetList.toArray⟩

def report : ConfigError → String
  | .invalid _ issues => String.join (issues.map fun issue => s!"\n  {issue.kind.message}")
  | _ => "it cannot be read"

def usage : String :=
  "Usage: arcshield [--help] scan|rules [OPTIONS]"

def explain : CommandError → String
  | .usage .misused => usage
  | .usage .unknownOption => "No such option"
  | .usage .wrongValue => "An option needs a value, or takes none"
  | .badParameter message => message
  | .file cause => cause.wording
  | .ruleSet (.config cause) => cause.message (report cause)
  | .ruleSet _ => "The rule file cannot be read"
  | .scan _ => "The scan failed"
  | .analyzer _ => "An analyzer's report cannot be read"

end ContractScan.Program

open ContractScan in
def main (args : List String) : IO UInt32 := do
  let base := Path.ofText (← IO.currentDir).toString
  let tree ← Program.addDirectory args [] { base }
  let session : Session := { tree }
  let env : Environment := {
    launch := Program.noLauncher
    time := ← Program.now
    read := Yaml.read
    report := Program.report }
  let (result, after) := session.run env args
  Program.writeChanges session.tree after.tree
  for record in result.logs do
    IO.println s!"{record.level.word} {record.message}"
  for item in result.console do
    for line in item.lines do
      IO.println line
  match Command.parse args, result.ending with
  | .ok .help, _ => IO.println Program.usage
  | _, .error cause => IO.eprintln (Program.explain cause)
  | _, .exit _ => pure ()
  return UInt32.ofNat result.ending.code
