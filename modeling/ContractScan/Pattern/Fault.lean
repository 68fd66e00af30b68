import ContractScan.Text.Quoted

/-! # Faults of pattern texts

Why a text is no pattern, with the wording of each cause and the place it
points to.
-/

namespace ContractScan.Pattern

inductive Fault where
  | danglingBackslash
  | missingName (what : String)
  | unterminatedName (terminator : Char)
  | badGroupName (name : String)
  | incompleteEscape (text : String)
  | missingBrace
  | unknownCharacterName (name : String)
  | octalOutOfRange (text : String)
  | badEscape (text : String)
  | openGroup
  | sameLookbehind
  | unknownGroup (index : Nat)
  | unterminatedSet
  | badRange (first last : String)
  | repeatBounds
  | nothingToRepeat
  | multipleRepeat
  | unexpectedEnd
  | unknownGroupName (name : String)
  | unknownExtension (text : String)
  | unterminatedComment
  | unterminatedGroup
  | groupZero
  | manyBranches
  | lateGlobalFlags
  | redefinedName (name : String) (index earlier : Nat)
  | localeFlag
  | mixedTypeFlags
  | missingFlagEnd
  | unknownFlag
  | globalFlagOn
  | missingFlag
  | typeFlagOff
  | missingColon
  | globalFlagOff
  | flagOnAndOff
  | unbalanced
  | lookbehindWidth
  | lookbehindTooFar
  | templateRepeat (operator : String)
  deriving DecidableEq, Repr

def Fault.wording : Fault → String
  | .danglingBackslash => "bad escape (end of pattern)"
  | .missingName what => "missing " ++ what
  | .unterminatedName terminator => "missing " ++ terminator.toString ++ ", unterminated name"
  | .badGroupName name => "bad character in group name " ++ Text.quoted name
  | .incompleteEscape text => "incomplete escape " ++ text
  | .missingBrace => "missing \x7b"
  | .unknownCharacterName name => "undefined character name " ++ Text.quoted name
  | .octalOutOfRange text => "octal escape value " ++ text ++ " outside of range 0-0o377"
  | .badEscape text => "bad escape " ++ text
  | .openGroup => "cannot refer to an open group"
  | .sameLookbehind => "cannot refer to group defined in the same lookbehind subpattern"
  | .unknownGroup index => "invalid group reference " ++ toString index
  | .unterminatedSet => "unterminated character set"
  | .badRange first last => "bad character range " ++ first ++ "-" ++ last
  | .repeatBounds => "min repeat greater than max repeat"
  | .nothingToRepeat => "nothing to repeat"
  | .multipleRepeat => "multiple repeat"
  | .unexpectedEnd => "unexpected end of pattern"
  | .unknownGroupName name => "unknown group name " ++ Text.quoted name
  | .unknownExtension text => "unknown extension ?" ++ text
  | .unterminatedComment => "missing ), unterminated comment"
  | .unterminatedGroup => "missing ), unterminated subpattern"
  | .groupZero => "bad group number"
  | .manyBranches => "conditional backref with more than two branches"
  | .lateGlobalFlags => "global flags not at the start of the expression"
  | .redefinedName name index earlier =>
    "redefinition of group name " ++ Text.quoted name ++ " as group " ++ toString index ++
      "; was group " ++ toString earlier
  | .localeFlag => "bad inline flags: cannot use 'L' flag with a str pattern"
  | .mixedTypeFlags => "bad inline flags: flags 'a', 'u' and 'L' are incompatible"
  | .missingFlagEnd => "missing -, : or )"
  | .unknownFlag => "unknown flag"
  | .globalFlagOn => "bad inline flags: cannot turn on global flag"
  | .missingFlag => "missing flag"
  | .typeFlagOff => "bad inline flags: cannot turn off flags 'a', 'u' and 'L'"
  | .missingColon => "missing :"
  | .globalFlagOff => "bad inline flags: cannot turn off global flag"
  | .flagOnAndOff => "bad inline flags: flag turned on and off"
  | .unbalanced => "unbalanced parenthesis"
  | .lookbehindWidth => "look-behind requires fixed-width pattern"
  | .lookbehindTooFar => "looks too much behind"
  | .templateRepeat operator => "internal: unsupported template operator " ++ operator

/-- Why a text is no pattern. The last three are no faults at a place of the text. -/
inductive Error where
  | fault (fault : Fault) (position : Option Nat)
  | asciiAndFullFlags
  | countTooLong (digits : Nat)
  | countTooLarge
  deriving DecidableEq, Repr

/-- The wording of a fault, with its place in a text of several lines also as line and column. -/
def Fault.message (fault : Fault) (position : Option Nat) (text : List Char) : String :=
  match position with
  | none => fault.wording
  | some p =>
    let upTo := text.take p
    let line := upTo.count '\n' + 1
    let column := (upTo.reverse.takeWhile (· != '\n')).length + 1
    let place := fault.wording ++ " at position " ++ toString p
    if text.contains '\n' then s!"{place} (line {line}, column {column})" else place

end ContractScan.Pattern
