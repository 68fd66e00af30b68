import ContractScan.Number.Shortest
import ContractScan.Text.Quoted
import ContractScan.Value.Basic

/-! # Writing JSON

Entries are separated by a comma and a blank, keys and values by a colon and a
blank. Texts are written with the quote, the backslash and control characters
below the space as escapes and everything else as it is.
-/

namespace ContractScan.Json

def escapeChar (c : Char) : List Char :=
  if c == '"' then ['\\', '"']
  else if c == '\\' then ['\\', '\\']
  else if c == '\n' then ['\\', 'n']
  else if c == '\r' then ['\\', 'r']
  else if c == '\t' then ['\\', 't']
  else if c.toNat == 0x08 then ['\\', 'b']
  else if c.toNat == 0x0C then ['\\', 'f']
  else if c.toNat < 0x20 then '\\' :: 'u' :: Text.hexDigits 4 c.toNat
  else [c]

def renderText (s : String) : List Char :=
  '"' :: s.toList.flatMap escapeChar ++ ['"']

def renderFloat : Binary64 → List Char
  | .nan => "NaN".toList
  | .infinite false => "Infinity".toList
  | .infinite true => "-Infinity".toList
  | x => x.text.toList

def renderInt (n : Int) : List Char :=
  (toString n).toList

def joined : List (List Char) → List Char
  | [] => []
  | [part] => part
  | part :: rest => part ++ ',' :: ' ' :: joined rest

/-- Keys are texts; a key of another kind is written as a text. -/
def renderKey : Value → List Char
  | .str s => renderText s
  | .null => renderText "null"
  | .bool b => renderText (if b then "true" else "false")
  | .int n => '"' :: renderInt n ++ ['"']
  | .float x => '"' :: renderFloat x ++ ['"']
  | _ => renderText ""

mutual
/-- Octets and moments have no form in JSON and are written as null. -/
def render : Value → List Char
  | .null => "null".toList
  | .bool true => "true".toList
  | .bool false => "false".toList
  | .int n => renderInt n
  | .float x => renderFloat x
  | .str s => renderText s
  | .bytes _ => "null".toList
  | .moment _ => "null".toList
  | .list items => '[' :: joined (renderAll items) ++ [']']
  | .set items => '[' :: joined (renderAll items) ++ [']']
  | .map entries => '\x7b' :: joined (renderEntries entries) ++ ['\x7d']

def renderAll : List Value → List (List Char)
  | [] => []
  | item :: rest => render item :: renderAll rest

def renderEntries : List (Value × Value) → List (List Char)
  | [] => []
  | (key, value) :: rest => (renderKey key ++ ':' :: ' ' :: render value) :: renderEntries rest
end

def print (value : Value) : String :=
  String.ofList (render value)

end ContractScan.Json
