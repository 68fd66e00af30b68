import ContractScan.Text.HexDigit
import ContractScan.Text.Integer
import ContractScan.Text.Utf8
import ContractScan.Yaml.Cursor
import ContractScan.Yaml.Token

/-! # Anchors, tags and directives -/

namespace ContractScan.Yaml

def isNameChar (c : Char) : Bool :=
  c.isAlphanum || c == '-' || c == '_'

def readName (p : Cursor) : Except Fault (String × Cursor) :=
  let (name, q) := p.span isNameChar
  if name.isEmpty then .error .malformed else .ok (String.ofList name, q)

def readAnchor (p : Cursor) : Except Fault (String × Cursor) := do
  let (name, q) ← readName p.next
  if q.atEndOr fun c => isGap c || ['?', ':', ',', ']', '\x7d', '%', '@', '\x60'].contains c then
    .ok (name, q)
  else .error .malformed

def isUriChar (c : Char) : Bool :=
  c.isAlphanum || ['-', ';', '/', '?', ':', '@', '&', '=', '+', '$', ',', '_', '.', '!', '~', '*',
    '\x27', '(', ')', '[', ']'].contains c

def readOctets : Nat → List UInt8 → Cursor → Except Fault (List UInt8 × Cursor)
  | 0, done, p => .ok (done.reverse, p)
  | fuel + 1, done, p =>
    match p.rest with
    | '%' :: a :: b :: _ =>
      match Text.hexNumber? [a, b] with
      | some n => readOctets fuel (UInt8.ofNat n :: done) (p.advance 3)
      | none => .error .malformed
    | '%' :: _ => .error .malformed
    | _ => .ok (done.reverse, p)

/-- The characters of a tag. Escaped octets have to form characters. -/
def readUri : Nat → List Char → Cursor → Except Fault (List Char × Cursor)
  | 0, done, p => .ok (done, p)
  | fuel + 1, done, p =>
    if p.isAt '%' then do
      let (octets, q) ← readOctets (p.rest.length + 1) [] p
      match Text.decode? octets with
      | some text => readUri fuel (done ++ text) q
      | none => .error .malformed
    else
      let (run, q) := p.span isUriChar
      if run.isEmpty then .ok (done, p) else readUri fuel (done ++ run) q

def readTagText (p : Cursor) : Except Fault (String × Cursor) := do
  let start := p.index
  let (text, q) ← readUri (p.rest.length + 1) [] p
  if q.index == start then .error .malformed else .ok (String.ofList text, q)

def readHandle (p : Cursor) : Except Fault (String × Cursor) :=
  if !p.isAt '!' then .error .malformed
  else if p.next.isAt ' ' then .ok ("!", p.next)
  else
    let (name, q) := p.next.span isNameChar
    if q.isAt '!' then .ok ("!" ++ String.ofList name ++ "!", q.next) else .error .malformed

def isBlankOrBreak (c : Char) : Bool :=
  c == ' ' || isBreak c

def readTag (p : Cursor) : Except Fault (TagName × Cursor) := do
  let (name, q) ← match p.next.rest with
    | '<' :: _ => do
      let (suffix, q) ← readTagText (p.advance 2)
      if q.isAt '>' then .ok (TagName.mk none suffix, q.next) else .error .malformed
    | rest =>
      if Cursor.gapFollows rest then .ok (TagName.mk none "!", p.next)
      else do
        let word := rest.takeWhile (!isBlankOrBreak ·)
        let (handle, q) ← if word.contains '!' then readHandle p else .ok ("!", p.next)
        let (suffix, q) ← readTagText q
        .ok (TagName.mk (some handle) suffix, q)
  if q.atEndOr isBlankOrBreak then .ok (name, q) else .error .malformed

def readVersionNumber (p : Cursor) : Except Fault (Nat × Cursor) :=
  let (digits, q) := p.span Char.isDigit
  if digits.isEmpty then .error .malformed
  else if Text.digitLimit < digits.length then .error .outOfRange
  else .ok (digits.foldl (fun n c => 10 * n + (c.toNat - 0x30)) 0, q)

def readVersion (p : Cursor) : Except Fault (Directive × Cursor) := do
  let (major, q) ← readVersionNumber p.skipBlanks
  if !q.isAt '.' then throw .malformed
  let (minor, q) ← readVersionNumber q.next
  if q.atEndOr isBlankOrBreak then .ok (.version major minor, q) else .error .malformed

def readHandleStem (p : Cursor) : Except Fault (Directive × Cursor) := do
  let (name, q) ← readHandle p.skipBlanks
  if !q.isAt ' ' then throw .malformed
  let (stem, q) ← readTagText q.skipBlanks
  if q.atEndOr isBlankOrBreak then .ok (.handle name stem, q) else .error .malformed

def readDirective (p : Cursor) : Except Fault (Directive × Cursor) := do
  let (name, q) ← readName p.next
  if !q.atEndOr isBlankOrBreak then throw .malformed
  let (directive, q) ←
    if name == "YAML" then readVersion q
    else if name == "TAG" then readHandleStem q
    else .ok (.other, q.skip (!isBreak ·))
  return (directive, ← q.finishLine)

end ContractScan.Yaml
