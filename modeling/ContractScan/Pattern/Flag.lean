import ContractScan.Pattern.CharSet

/-! # Flags of patterns

A flag is written as one letter. Groups may turn flags on and off for what
they hold.
-/

namespace ContractScan.Pattern

inductive Flag where
  | ignoreCase
  | locale
  | multiline
  | dotAll
  | verbose
  | ascii
  | template
  | unicode
  deriving DecidableEq, Repr

def Flag.ofChar? : Char → Option Flag
  | 'i' => some .ignoreCase
  | 'L' => some .locale
  | 'm' => some .multiline
  | 's' => some .dotAll
  | 'x' => some .verbose
  | 'a' => some .ascii
  | 't' => some .template
  | 'u' => some .unicode
  | _ => none

/-- Flags that say which characters the kinds of characters range over. -/
def Flag.isType : Flag → Bool
  | .ascii | .locale | .unicode => true
  | _ => false

abbrev Flags := List Flag

namespace Flags

def folding (flags : Flags) : Folding :=
  if flags.contains .ignoreCase then
    if flags.contains .ascii then .ascii else .full
  else .exact

def within (flags on off : Flags) : Flags :=
  let kept := if on.any Flag.isType then flags.filter (!·.isType) else flags
  (kept ++ on).filter (!off.contains ·)

end Flags

end ContractScan.Pattern
