import LetArith.Parser

namespace LetArith

/-- The ways to pull tokens from a lexer. A parser knows two of them: its current token is the one
    that a peek answers, and it advances by `next`. -/
inductive Pull where
  | next
  | peek
  | iterate
  | drain
  | skip
  deriving DecidableEq, Repr

/-- What can be asked of a session. -/
inductive Operation where
  | pull (pull : Pull)
  | scan
  | readNumeral
  | advance
  | current
  | ahead (distance : Int)
  | atEnd
  | mark
  | reset (index : Nat)
  | expect (kind : Kind) (expected : String)
  | demand (kind : Kind) (expected : String)
  | primary
  | expression (least : Int)
  | binding (keyword : Token)
  | statement
  | program
  deriving DecidableEq, Repr

/-- What a session answers. -/
inductive Answer where
  | nothing
  | stop
  | flag (value : Bool)
  | place (cursor : Cursor)
  | character (c : Option Char)
  | text (text : String)
  | token (token : Token)
  | tokens (tokens : List Token)
  | tree (node : Node)
  | trees (nodes : List Node)

/-- Pulls tokens from a lexer. Iterating consumes the token for the end of input as well, and stops
    there. -/
def Pull.read : Pull → Parser Answer
  | .next => return .token (← Lexer.next)
  | .peek => return .token (← Lexer.peek)
  | .iterate => do
    let token ← Lexer.next
    pure (if token.kind = .endOfInput then .stop else .token token)
  | .drain => return .tokens (← Lexer.drain)
  | .skip => do
    modify Lexer.skipBlanks
    return .nothing

/-- A lexer, and the marks that were taken of its cursor. -/
structure Session where
  lexer : Lexer
  marks : List Cursor := []

namespace Session

/-- A session at the beginning of a text. -/
def ofString (text : String) : Session := { lexer := .ofString text }

/-- Takes what a parser answers, and the lexer as it leaves it. -/
def take (s : Session) (reading : Parser Answer) : Except Fault Answer × Session :=
  let step : Step Answer := reading s.lexer
  (step.toExcept, { s with lexer := step.lexer })

/-- Does what is asked. A mark that was not taken is no place to go back to. -/
def perform (s : Session) : Operation → Except Fault Answer × Session
  | .pull pull => s.take pull.read
  | .scan => s.take do return .token (← Lexer.scan)
  | .readNumeral => s.take do return .text (← Lexer.readNumeral)
  | .advance => s.take do return .character (← Lexer.advance)
  | .current => s.take do return .character (← Lexer.current)
  | .ahead distance => s.take do return .character ((← get).ahead? distance)
  | .atEnd => s.take do return .flag (← get).atEnd
  | .mark => (.ok (.place s.lexer.cursor), { s with marks := s.marks ++ [s.lexer.cursor] })
  | .reset index =>
    (.ok .nothing,
      { s with lexer := { s.lexer with cursor := s.marks.getD index s.lexer.cursor } })
  | .expect kind expected => s.take do return .token (← Parser.expect kind expected)
  | .demand kind expected => s.take do
    Parser.demand kind expected
    return .nothing
  | .primary => s.take do return .tree (← Parser.primary)
  | .expression least => s.take do return .tree (← Parser.expression least)
  | .binding keyword => s.take do return .tree (← Parser.binding keyword)
  | .statement => s.take do return .tree (← Parser.statement)
  | .program => s.take do return .trees (← Parser.program)

/-- What a session answers to one operation after another. -/
def answers (s : Session) : List Operation → List (Except Fault Answer)
  | [] => []
  | operation :: operations =>
    (s.perform operation).1 :: (s.perform operation).2.answers operations

/-- A session behind one operation after another. -/
def after (s : Session) : List Operation → Session
  | [] => s
  | operation :: operations => (s.perform operation).2.after operations

end Session

end LetArith
