import LetArith.Node.Basic
import LetArith.Token.Basic

namespace LetArith

/-- Something worth noting. -/
inductive Event where
  /-- A token that no grammar admits was consumed. -/
  | invalid (token : Token)
  /-- A binding was read. -/
  | bound (name : String) (initial : Node)
  /-- A whole program of so many statements was read. -/
  | finished (statements : Nat)
  deriving DecidableEq

namespace Event

/-- The message about a token that no grammar admits. -/
def complaint (token : Token) : String :=
  "bad character input " ++ Text.quote token.literal ++ " at line " ++ toString token.start.line
    ++ ", col " ++ toString token.start.column

/-- The wording of an event. -/
def message : Event → String
  | .invalid token => complaint token
  | .bound name initial => "let " ++ name ++ " = " ++ initial.listing
  | .finished statements => "parsed " ++ toString statements ++ " statement(s)"

/-- The message of an event that is a complaint about the source text. -/
def complaint? : Event → Option String
  | .invalid token => some (complaint token)
  | _ => none

end Event

end LetArith
