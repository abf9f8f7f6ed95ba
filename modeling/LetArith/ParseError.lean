import LetArith.Token.Basic

namespace LetArith

/-- The sorts of error that a source text can have. -/
inductive ErrorKind where
  | lexical
  | unexpectedToken
  | unexpectedEnd
  | unsupportedStatement
  deriving DecidableEq, Repr

/-- The wording of a sort of error. -/
def ErrorKind.text : ErrorKind → String
  | .lexical => "lexical"
  | .unexpectedToken => "unexpected token"
  | .unexpectedEnd => "unexpected end of input"
  | .unsupportedStatement => "unsupported statement"

/-- An error of a source text. -/
structure ParseError where
  kind : ErrorKind
  /-- What is wrong, without the place and without what was expected. -/
  detail : String
  /-- The token at fault, if there is one. -/
  token : Option Token
  /-- What should have come instead. -/
  expected : Option String
  deriving DecidableEq, Repr

namespace ParseError

/-- The line and the column of a token between brackets. -/
def place (token : Token) : String :=
  "[" ++ toString token.start.line ++ ":" ++ toString token.start.column ++ "]"

/-- The whole message: the place if it is known, the sort of error with its detail, and what was
    expected unless nothing is said about it. -/
def message (error : ParseError) : String :=
  let places := error.token.toList.map place
  let expectations := (error.expected.toList.filter (· ≠ "")).map fun text =>
    "(expected " ++ text ++ ")"
  " ".intercalate (places ++ [error.kind.text ++ ": " ++ error.detail] ++ expectations)

/-- The error of finding a token where something else was expected. -/
def unexpected (token : Token) (expected : Option String) : ParseError :=
  match token.kind with
  | .invalid => ⟨.lexical, "invalid character " ++ Text.quote token.literal, token, expected⟩
  | .endOfInput => ⟨.unexpectedEnd, "input ended early", token, expected⟩
  | _ => ⟨.unexpectedToken, "unexpected " ++ token.description, token, expected⟩

/-- The error of a statement that begins with a token which begins no statement. -/
def unsupported (token : Token) : ParseError :=
  ⟨.unsupportedStatement, "statements cannot start with " ++ token.description, token, "'let'"⟩

end ParseError

end LetArith
