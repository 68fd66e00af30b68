import ContractScan.Pattern.Reading
import ContractScan.Text.Identifier
import ContractScan.Text.Integer

/-! # How groups begin and end

What stands between an opening bracket and the contents of its group: a name,
flags, a condition, or the mark of a look-around.
-/

namespace ContractScan.Pattern

open Reader

def checkGroupName (name : List Char) : Reader Unit := do
  if !Text.isIdentifier name then
    fail (.badGroupName (String.ofList name)) (name.length + 1)

def openGroup (name : Option (List Char)) : Reader Nat := do
  let r ← get
  let index := r.groupCount
  match name with
  | none => set { r with widths := r.widths ++ [none] }
  | some name =>
    let text := String.ofList name
    match r.names.lookup text with
    | some earlier => fail (.redefinedName text index earlier) (name.length + 1)
    | none =>
      set { r with widths := r.widths ++ [none], names := r.names ++ [(text, index)] }
  return index

def closeGroup (index : Nat) (body : Node) : Reader Unit :=
  modify fun r => { r with widths := r.widths.set (index - 1) (some (body.width r.groupWidth)) }

def readCondition : Reader Nat := do
  let name ← takeName ')' "group name"
  let back := name.length + 1
  let text := String.ofList name
  let index ←
    if Text.isIdentifier name then
      match (← get).names.lookup text with
      | some index => pure index
      | none => fail (.unknownGroupName text) back
    else
      match Text.integer? name with
      | some (.ofNat 0) => fail .groupZero back
      | some (.ofNat index) =>
        if 2147483647 ≤ index then fail (.unknownGroup index) back
        let r ← get
        if (r.conditions.lookup index).isNone then
          set { r with conditions := r.conditions ++ [(index, r.position - back)] }
        pure index
      | _ => fail (.badGroupName text) back
  checkLookbehind index
  return index

def flagsOn : Nat → Symbol → Flags → Reader (Flags × Char)
  | 0, _, on => return (on, ')')
  | fuel + 1, s, on => do
    let flag? := match s with
      | .plain c => Flag.ofChar? c
      | _ => none
    match flag? with
    | none => return (on, ')')
    | some flag =>
      if flag == .locale then fail .localeFlag
      let on := on ++ [flag]
      if flag.isType && on.any (fun f => f.isType && f != flag) then fail .mixedTypeFlags
      match ← take with
      | none => fail .missingFlagEnd
      | some (.plain c) =>
        if c == ')' || c == '-' || c == ':' then return (on, c)
        if (Flag.ofChar? c).isNone then
          fail (if Text.isLetter c then .unknownFlag else .missingFlagEnd) 1
        flagsOn fuel (.plain c) on
      | some other => fail .missingFlagEnd other.width

def flagsOff : Nat → Char → Flags → Reader Flags
  | 0, _, off => return off
  | fuel + 1, c, off => do
    match Flag.ofChar? c with
    | none => return off
    | some flag =>
      if flag.isType then fail .typeFlagOff
      let off := off ++ [flag]
      match ← take with
      | none => fail .missingColon
      | some (.plain ':') => return off
      | some (.plain c) =>
        if (Flag.ofChar? c).isNone then
          fail (if Text.isLetter c then .unknownFlag else .missingColon) 1
        flagsOff fuel c off
      | some other => fail .missingColon other.width

/-- Flags for a group, or nothing when they are for the whole pattern. -/
def readFlags (first : Symbol) : Reader (Option (Flags × Flags)) := do
  let size := (← get).rest.length + 1
  let (on, mark) ←
    if first == .plain '-' then pure ([], '-') else flagsOn size first []
  if mark == ')' then
    modify fun r => { r with flags := r.flags ++ on }
    return none
  if on.contains .template then fail .globalFlagOn 1
  let off ←
    if mark == '-' then
      match ← take with
      | none => fail .missingFlag
      | some (.plain c) =>
        if (Flag.ofChar? c).isNone then
          fail (if Text.isLetter c then .unknownFlag else .missingFlag) 1
        flagsOff size c []
      | some other => fail .missingFlag other.width
    else pure []
  if off.contains .template then fail .globalFlagOff 1
  if on.any off.contains then fail .flagOnAndOff 1
  return some (on, off)

def skipComment (opened : Nat) : Nat → Reader Unit
  | 0 => pure ()
  | fuel + 1 => do
    if (← peek).isNone then failAt .unterminatedComment opened
    if (← take) == some (.plain ')') then pure () else skipComment opened fuel

def skipLine : Nat → Reader Unit
  | 0 => pure ()
  | fuel + 1 => do
    match ← take with
    | none | some (.plain '\n') => pure ()
    | some _ => skipLine fuel

inductive Opening where
  | capture (name : Option (List Char))
  | plain
  | scoped (on off : Flags)
  | atomic
  | look (behind negated : Bool)
  | condition
  | reference (node : Node)
  | comment
  | globalFlags

def readOpening (flags : Flags) (opened : Nat) : Reader Opening := do
  if !(← takeChar '?') then return .capture none
  match ← take with
  | none => fail .unexpectedEnd
  | some (.plain 'P') =>
    if ← takeChar '<' then
      let name ← takeName '>' "group name"
      checkGroupName name
      return .capture (some name)
    else if ← takeChar '=' then
      let name ← takeName ')' "group name"
      checkGroupName name
      let text := String.ofList name
      let r ← get
      match r.names.lookup text with
      | none => fail (.unknownGroupName text) (name.length + 1)
      | some index =>
        if !r.isClosed index then fail .openGroup (name.length + 1)
        checkLookbehind index
        return .reference (.backreference index flags.folding)
    else
      match ← take with
      | none => fail .unexpectedEnd
      | some s => fail (.unknownExtension (String.ofList ('P' :: s.chars))) (s.width + 2)
  | some (.plain ':') => return .plain
  | some (.plain '#') =>
    skipComment opened ((← get).rest.length + 1)
    return .comment
  | some (.plain '=') => return .look false false
  | some (.plain '!') => return .look false true
  | some (.plain '<') =>
    match ← take with
    | none => fail .unexpectedEnd
    | some (.plain '=') => return .look true false
    | some (.plain '!') => return .look true true
    | some s => fail (.unknownExtension (String.ofList ('<' :: s.chars))) (s.width + 2)
  | some (.plain '(') => return .condition
  | some (.plain '>') => return .atomic
  | some s =>
    let isFlag := match s with
      | .plain c => c == '-' || (Flag.ofChar? c).isSome
      | _ => false
    if isFlag then
      match ← readFlags s with
      | none => return .globalFlags
      | some (on, off) => return .scoped on off
    else fail (.unknownExtension (String.ofList s.chars)) (s.width + 1)

def expectClose (opened : Nat) : Reader Unit := do
  if !(← takeChar ')') then failAt .unterminatedGroup opened

end ContractScan.Pattern
