/-! # Words of 64 bits -/

namespace ContractScan

/-- The words with a sign reach from `-wordBound` up to `wordBound`, which is none of them. -/
def wordBound : Int :=
  0x8000000000000000

def fitsWord (n : Int) : Bool :=
  -wordBound ≤ n && n < wordBound

end ContractScan
