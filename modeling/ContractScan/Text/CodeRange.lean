/-! # Tables of code point ranges

A character property that is not a formula is a table of ranges, looked up by
binary search.
-/

namespace ContractScan.Text

/-- Ranges of code points with both ends included, increasing and apart. -/
abbrev RangeTable := Array (Nat × Nat)

def RangeTable.contains (table : RangeTable) (code : Nat) : Bool :=
  go table.size 0 table.size
where
  /-- Searches the entries from `low` up to `high`, which halve at every step. -/
  go : Nat → Nat → Nat → Bool
    | 0, _, _ => false
    | fuel + 1, low, high =>
      if low < high then
        let middle := (low + high) / 2
        match table[middle]? with
        | none => false
        | some (first, last) =>
          if code < first then go fuel low middle
          else if last < code then go fuel (middle + 1) high
          else true
      else false

end ContractScan.Text
