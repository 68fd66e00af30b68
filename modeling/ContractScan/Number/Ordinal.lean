/-! # Numbered ids

Ids of findings are a word, a dash and a number of at least three places, the
sign counted among them.
-/

namespace ContractScan

def padded (n : Int) : String :=
  let digits := toString n.natAbs
  if n < 0 then "-" ++ "".pushn '0' (2 - digits.length) ++ digits
  else "".pushn '0' (3 - digits.length) ++ digits

def numberedId (word : String) (ordinal : Int) : String :=
  word ++ "-" ++ padded ordinal

end ContractScan
