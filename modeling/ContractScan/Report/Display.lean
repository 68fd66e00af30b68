import ContractScan.Report.Console

/-! # Plain display

Console items as lines of plain text: marks for styles are left out, and the
columns of a table stand below one another.
-/

namespace ContractScan

namespace Markup

def afterMark (text : List Char) : List Char :=
  (text.dropWhile (· != ']')).drop 1

/-- Drops the marks and takes back what `escape` adds; `slashes` is the number of backslashes just
before. The first argument bounds the characters. -/
def plainFrom : Nat → Nat → List Char → List Char
  | 0, slashes, rest => List.replicate slashes '\\' ++ rest
  | _, slashes, [] => List.replicate slashes '\\'
  | fuel + 1, slashes, c :: rest =>
    if c == '\\' then plainFrom fuel (slashes + 1) rest
    else if c == '[' && isMark rest then
      let kept := List.replicate (slashes / 2) '\\'
      if slashes % 2 == 0 then kept ++ plainFrom fuel 0 (afterMark rest)
      else kept ++ '[' :: plainFrom fuel 0 rest
    else List.replicate slashes '\\' ++ c :: plainFrom fuel 0 rest

def plain (text : String) : String :=
  String.ofList (plainFrom (text.length + 1) 0 text.toList)

end Markup

namespace Table

def widths (rows : List (List String)) : List Nat :=
  rows.foldl (fun widths row =>
    let lengths := row.map String.length
    (List.range (max widths.length lengths.length)).map fun i =>
      max (widths.getD i 0) (lengths.getD i 0)) []

def line (widths : List Nat) (row : List String) : String :=
  "  ".intercalate ((row.zip widths).map fun (cell, width) =>
    cell ++ "".pushn ' ' (width - cell.length))

def lines (t : Table) : List String :=
  let rows := t.columns :: t.rows.map (·.map Markup.plain)
  t.title :: rows.map (line (widths rows))

end Table

def ConsoleItem.lines : ConsoleItem → List String
  | .log text => [Markup.plain text]
  | .print text => [Markup.plain text]
  | .table t => t.lines

end ContractScan
