/-! # Occurrences of a text in another -/

namespace ContractScan.Text

def occurs (needle : List Char) : List Char → Bool
  | [] => needle.isEmpty
  | c :: rest => needle.isPrefixOf (c :: rest) || occurs needle rest

end ContractScan.Text
