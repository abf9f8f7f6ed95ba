import LetArith.Cursor
import LetArith.Operator
import LetArith.Text.Quoted

namespace LetArith

/-- The kinds of token. -/
inductive Kind where
  | identifier
  | assign
  | letKeyword
  | number
  | plus
  | minus
  | times
  | divide
  | string
  | integerType
  | stringType
  | floatType
  | booleanType
  | invalid
  | endOfInput
  deriving DecidableEq, Repr

namespace Kind

/-- All kinds, in the order of their declaration. -/
def all : List Kind :=
  [.identifier, .assign, .letKeyword, .number, .plus, .minus, .times, .divide, .string,
    .integerType, .stringType, .floatType, .booleanType, .invalid, .endOfInput]

/-- The name of a kind. -/
def name : Kind → String
  | .identifier => "IDENT"
  | .assign => "ASSIGN"
  | .letKeyword => "LET"
  | .number => "NUMBER"
  | .plus => "PLUS"
  | .minus => "SUB"
  | .times => "MULT"
  | .divide => "DIV"
  | .string => "STRING"
  | .integerType => "INT_TYPE"
  | .stringType => "STRING_TYPE"
  | .floatType => "FLOAT_TYPE"
  | .booleanType => "BOOL_TYPE"
  | .invalid => "INVALID"
  | .endOfInput => "EOF"

/-- The kinds kept for a typed language, which no text is read as. -/
def reserved : List Kind := [.string, .integerType, .stringType, .floatType, .booleanType]

/-- The words that are no names. -/
def keywords : List (String × Kind) := [("let", .letKeyword)]

/-- The kind of a word: a keyword or a name. -/
def ofWord (word : String) : Kind := (keywords.lookup word).getD .identifier

/-- The characters that are tokens by themselves. -/
def signs : List (Char × Kind) :=
  [('=', .assign), ('+', .plus), ('-', .minus), ('*', .times), ('/', .divide)]

/-- The kind of a character that is a token by itself. -/
def ofSign? (c : Char) : Option Kind := signs.lookup c

/-- The operator that a kind of token stands for. -/
def operator? : Kind → Option Operator
  | .plus => some .plus
  | .minus => some .minus
  | .times => some .times
  | .divide => some .divide
  | _ => none

end Kind

/-- A token: its kind, its text, and where it begins. The text of a number lacks the separators
    between its digits. -/
structure Token where
  kind : Kind
  literal : String
  start : Cursor
  deriving DecidableEq, Repr

namespace Token

/-- The short form of a token, without its place. -/
def listing (token : Token) : String := "Token(" ++ token.kind.name ++ ", " ++ token.literal ++ ")"

/-- A token as error messages name it. -/
def description (token : Token) : String :=
  if token.kind = .endOfInput then "end of input"
  else token.kind.name ++ " " ++ Text.quote token.literal

/-- A token as a line of a token listing. -/
def line (token : Token) : String :=
  token.kind.name ++ ": '" ++ token.literal ++ "' @" ++ toString token.start.position

/-- The listing of tokens, one to a line. -/
def lines (tokens : List Token) : String := "\n".intercalate (tokens.map line)

/-- Several tokens in their short form, between brackets. -/
def bracketed (tokens : List Token) : String :=
  "[" ++ ", ".intercalate (tokens.map listing) ++ "]"

end Token

end LetArith
