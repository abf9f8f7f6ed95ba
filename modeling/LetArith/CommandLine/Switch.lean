namespace LetArith.CommandLine

/-- An option of the command line. -/
inductive Switch where
  | help
  | inline
  | tokens
  | json
  | output
  | repl
  | verbose
  | logLevel
  deriving DecidableEq, Repr

namespace Switch

/-- All options, in the order of their declaration. -/
def all : List Switch :=
  [.help, .inline, .tokens, .json, .output, .repl, .verbose, .logLevel]

/-- The letter of an option. -/
def letter? : Switch → Option Char
  | .help => some 'h'
  | .inline => some 's'
  | .output => some 'o'
  | _ => none

/-- The spelling of an option with two dashes. -/
def spelling : Switch → String
  | .help => "--help"
  | .inline => "--string"
  | .tokens => "--tokens"
  | .json => "--json"
  | .output => "--out"
  | .repl => "--repl"
  | .verbose => "--verbose"
  | .logLevel => "--log-level"

/-- Whether an option takes a value. -/
def takesValue : Switch → Bool
  | .output | .logLevel => true
  | _ => false

/-- An option as messages name it: all its spellings. -/
def title (switch : Switch) : String :=
  match switch.letter? with
  | some letter => "-" ++ String.ofList [letter] ++ "/" ++ switch.spelling
  | none => switch.spelling

/-- The option of a letter. -/
def ofLetter? (letter : Char) : Option Switch := all.find? (·.letter? = some letter)

/-- The options whose spelling with two dashes begins with a text. -/
def candidates (beginning : List Char) : List Switch :=
  all.filter fun switch => beginning.isPrefixOf switch.spelling.toList

end Switch

end LetArith.CommandLine
