/-! # Arguments

Options are written with two dashes, their values after them or after an equals
sign. Short options have one dash and can share it. Two dashes alone end the
options. Everything is read before any option takes effect.
-/

namespace ContractScan

inductive UsageError where
  /-- No command, an unknown one, or an argument too many. -/
  | misused
  | unknownOption
  /-- An option without the value it needs, or with one it does not take. -/
  | wrongValue
  deriving DecidableEq, Repr

structure OptionSpec where
  name : String
  takesValue : Bool := false
  short : Option Char := none
  deriving DecidableEq, Repr

/-- Options as they were given, with their values, and the other arguments. -/
structure Given where
  options : List (String × String) := []
  others : List String := []
  deriving DecidableEq, Repr

namespace Given

def has (g : Given) (name : String) : Bool :=
  g.options.any (·.1 == name)

def values (g : Given) (name : String) : List String :=
  (g.options.filter (·.1 == name)).map (·.2)

def last? (g : Given) (name : String) : Option String :=
  (g.values name).getLast?

/-- Whether an option or its opposite was given last. -/
def switch (g : Given) (on off : String) (default : Bool) : Bool :=
  match (g.options.filter fun option => option.1 == on || option.1 == off).getLast? with
  | some (name, _) => name == on
  | none => default

def option (g : Given) (name value : String) : Given :=
  { g with options := g.options ++ [(name, value)] }

end Given

def splitOption (arg : String) : String × Option String :=
  let chars := arg.toList
  match chars.dropWhile (· != '=') with
  | [] => (arg, none)
  | _ :: value => (String.ofList (chars.takeWhile (· != '=')), some (String.ofList value))

def isOption (arg : String) : Bool :=
  match arg.toList with
  | '-' :: _ :: _ => true
  | _ => false

def readShort (specs : List OptionSpec) : List Char → Given → Except UsageError Given
  | [], g => .ok g
  | c :: rest, g =>
    match specs.find? (·.short == some c) with
    | some spec => readShort specs rest (g.option spec.name "")
    | none => .error .unknownOption

/-- Reads arguments. Others than options end the reading, unless they can stand between the
options; in both cases they are kept. -/
def readArguments (specs : List OptionSpec) (mixed : Bool) :
    List String → Given → Except UsageError Given
  | [], g => .ok g
  | arg :: rest, g =>
    if arg == "--" then .ok { g with others := g.others ++ rest }
    else if !isOption arg then
      if mixed then readArguments specs mixed rest { g with others := g.others ++ [arg] }
      else .ok { g with others := g.others ++ arg :: rest }
    else
      let (name, value?) := splitOption arg
      match specs.find? (·.name == name) with
      | none =>
        if arg.startsWith "--" then .error .unknownOption
        else do
          let g ← readShort specs (arg.toList.drop 1) g
          readArguments specs mixed rest g
      | some spec =>
        match spec.takesValue, value?, rest with
        | true, some value, rest => readArguments specs mixed rest (g.option name value)
        | true, none, value :: rest => readArguments specs mixed rest (g.option name value)
        | true, none, [] => .error .wrongValue
        | false, some _, _ => .error .wrongValue
        | false, none, rest => readArguments specs mixed rest (g.option name "")

end ContractScan
