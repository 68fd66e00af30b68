/-! # Console output

What a command shows. Texts and cells carry marks for styles in square
brackets, so a bracket that is text has to be escaped.
-/

namespace ContractScan

structure Table where
  title : String
  columns : List String
  rows : List (List String)
  deriving DecidableEq, Repr

inductive ConsoleItem where
  | log (text : String)
  | print (text : String)
  | table (table : Table)
  deriving DecidableEq, Repr

namespace Markup

def startsMark (c : Char) : Bool :=
  ('a' ≤ c && c ≤ 'z') || c == '#' || c == '/' || c == '@'

/-- Whether a text after an opening bracket goes on as a mark: up to a closing bracket, with no
further opening one before it. -/
def isMark : List Char → Bool
  | [] => false
  | c :: rest => startsMark c && closes rest
where
  closes : List Char → Bool
    | [] => false
    | c :: rest => c == ']' || (c != '[' && closes rest)

/-- Doubles the backslashes before every mark and puts one more before its bracket; `slashes` is
the number of backslashes just before. -/
def escapeFrom : Nat → List Char → List Char
  | slashes, [] => List.replicate slashes '\\'
  | slashes, c :: rest =>
    if c == '\\' then escapeFrom (slashes + 1) rest
    else if c == '[' && isMark rest then
      List.replicate (2 * slashes + 1) '\\' ++ '[' :: escapeFrom 0 rest
    else List.replicate slashes '\\' ++ c :: escapeFrom 0 rest

/-- A text that shows as it is. A single backslash at its end is doubled, so that it does not
escape what follows. -/
def escape (text : String) : String :=
  let escaped := escapeFrom 0 text.toList
  let slashes := (escaped.reverse.takeWhile (· == '\\')).length
  String.ofList (if slashes == 1 then escaped ++ ['\\'] else escaped)

end Markup

end ContractScan
