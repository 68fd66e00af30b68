import ContractScan.Text.Pieces

/-! # Lines and offsets

Lines end at line feeds only. An offset may be negative, and then counts from
the end of the text; a place outside the text stands for the nearest end.
-/

namespace ContractScan.Source

/-- The part of a list before a bound, where a negative bound counts from the end. -/
def before {α : Type} (items : List α) (bound : Int) : List α :=
  items.take (if bound < 0 then (items.length + bound).toNat else bound.toNat)

def lines (text : List Char) : List (List Char) :=
  Text.pieces '\n' text

def lineNumber (text : List Char) (offset : Int) : Nat :=
  (before text offset).count '\n' + 1

def joinLines (lines : List (List Char)) : List Char :=
  (lines.intersperse ['\n']).flatten

/-- The lines at positions `number - 2` to `number + 2`, counted from zero and kept inside the
text. -/
def snippet (lines : List (List Char)) (number : Int) : List Char :=
  if lines.isEmpty then []
  else
    let first := max 0 (number - 2)
    let last := min (lines.length - 1 : Int) (number + 2)
    joinLines ((before lines (last + 1)).drop first.toNat)

end ContractScan.Source
