import ContractScan.Pattern.Match

/-! # Masking comments and literals

Comments and the insides of string literals are blanked out, so that prose and
quoted brackets do not look like code. Every offset and every line feed stays
where it is.
-/

namespace ContractScan.Source

open Pattern

/-- A string literal: a quote, then escapes and plain characters within the line, then the quote
again. An escape takes any character, a line feed too. -/
def stringLiteral (quote : Char) : Pattern :=
  .seq (.char quote)
    (.seq
      (.star (.alt (.seq (.char '\\') (.chars .any)) (.noneOf [quote, '\\', '\n'])))
      (.char quote))

def lineComment : Pattern :=
  .seq (.literal "//") (.star (.noneOf ['\n']))

/-- From the opening mark to the first closing one, or to the end of the text. -/
def blockComment : Pattern :=
  .seq (.literal "/*")
    (.seq (.repetition .lazy 0 none (.chars .any)) (.alt (.literal "*/") (.anchor .textEnd)))

/-- What is masked. A literal comes first, so comment marks inside it are left alone. -/
def maskable : Pattern :=
  .alternatives [stringLiteral '\'', stringLiteral '"', lineComment, blockComment]

def blankChar (c : Char) : Char :=
  if c == '\n' then c else ' '

def blank (token : List Char) : List Char :=
  match token with
  | [] => []
  | c :: rest =>
    if c == '"' || c == '\'' then
      c :: rest.dropLast.map blankChar ++ rest.getLast?.toList
    else token.map blankChar

def mask (text : List Char) : List Char :=
  replaceAll maskable blank text

end ContractScan.Source
