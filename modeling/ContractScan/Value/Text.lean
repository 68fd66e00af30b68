import ContractScan.Number.Shortest
import ContractScan.Text.Quoted
import ContractScan.Value.Basic

/-! # Values as text

Messages and reports show values in two forms: `quoted`, where texts stand in
quotes, and `text`, where a text stands for itself. Inside lists and mappings
texts are always quoted.
-/

namespace ContractScan

namespace Moment

/-- The offset as a span of days, from `-1` or `0`, and seconds. -/
def offsetText (minutes : Int) : String :=
  if minutes == 0 then "datetime.timezone.utc"
  else
    let span :=
      if minutes < 0 then s!"days=-1, seconds={86400 + minutes * 60}" else s!"seconds={minutes * 60}"
    s!"datetime.timezone(datetime.timedelta({span}))"

def quoted (m : Moment) : String :=
  let date := s!"{m.year}, {m.month}, {m.day}"
  match m.time with
  | none => s!"datetime.date({date})"
  | some (hour, minute, second, fraction) =>
    let tail :=
      if fraction != 0 then s!", {second}, {fraction}"
      else if second != 0 then s!", {second}" else ""
    let zone := match m.offset with
      | none => ""
      | some minutes => ", tzinfo=" ++ offsetText minutes
    s!"datetime.datetime({date}, {hour}, {minute}{tail}{zone})"

end Moment

namespace Value

def quotedBytes (octets : List UInt8) : String :=
  let chars := octets.map fun b => Char.ofNat b.toNat
  let quote := Text.quoteFor chars
  let escape (c : Char) : List Char :=
    if c.toNat < 0x7F then Text.escapeChar quote c else '\\' :: 'x' :: Text.hexDigits 2 c.toNat
  String.ofList ('b' :: quote :: chars.flatMap escape ++ [quote])

mutual
def quoted : Value → String
  | .null => "None"
  | .bool b => if b then "True" else "False"
  | .int n => toString n
  | .float x => x.text
  | .str s => Text.quoted s
  | .bytes b => quotedBytes b
  | .moment m => m.quoted
  | .list items => "[" ++ ", ".intercalate (quotedAll items) ++ "]"
  | .set items =>
    if items.isEmpty then "set()"
    else "\x7b" ++ ", ".intercalate (quotedAll items) ++ "\x7d"
  | .map entries => "\x7b" ++ ", ".intercalate (quotedEntries entries) ++ "\x7d"

def quotedAll : List Value → List String
  | [] => []
  | item :: rest => quoted item :: quotedAll rest

def quotedEntries : List (Value × Value) → List String
  | [] => []
  | (key, value) :: rest => (quoted key ++ ": " ++ quoted value) :: quotedEntries rest
end

def text : Value → String
  | .str s => s
  | value => value.quoted

end Value

end ContractScan
