/-! # Pieces of a text

A text is cut at every occurrence of a character. There is one piece more than
there are cuts, so a text without any is its own single piece.
-/

namespace ContractScan.Text

/-- The pieces in order; `done` holds the characters of the open piece, last first. -/
def piecesFrom (separator : Char) (done : List Char) : List Char → List (List Char)
  | [] => [done.reverse]
  | c :: rest =>
    if c == separator then done.reverse :: piecesFrom separator [] rest
    else piecesFrom separator (c :: done) rest

def pieces (separator : Char) (text : List Char) : List (List Char) :=
  piecesFrom separator [] text

end ContractScan.Text
