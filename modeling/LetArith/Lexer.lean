import LetArith.Journal
import LetArith.ParseError
import LetArith.Token.Lexeme

namespace LetArith

/-- Why a step of a lexer or of a parser fails. -/
inductive Fault where
  /-- A character was asked for at or behind the end of the text. -/
  | pastEnd (position line : Int)
  /-- A character was asked for before the beginning of the text. -/
  | beforeBeginning (position : Int)
  /-- The source text does not follow the grammar. -/
  | syntactic (error : ParseError)
  deriving DecidableEq, Repr

/-- The least number that is an index at all: indices are signed numbers of 64 bits. -/
def leastIndex : Int := -9223372036854775808

/-- The wording of a fault. A position before the beginning of the text is told apart from one that
    no text could have. -/
def Fault.message : Fault → String
  | .pastEnd position line =>
    "CharacterStreamError: Attempted to read past end of source at position=<"
      ++ toString position ++ ">, line=<" ++ toString line ++ ">"
  | .beforeBeginning position =>
    if position < leastIndex then "cannot fit 'int' into an index-sized integer"
    else "string index out of range"
  | .syntactic error => error.message

/-- A source text, the cursor in it, and what has been noted so far. -/
structure Lexer where
  source : List Char
  cursor : Cursor := {}
  journal : List Event := []
  deriving DecidableEq

/-- The outcome of a step: an answer or a fault, with the lexer that the step leaves behind. -/
abbrev Step (α : Type) := EStateM.Result Fault Lexer α

/-- The lexer that a step leaves behind. -/
def Step.lexer {α : Type} : Step α → Lexer
  | .ok _ l => l
  | .error _ l => l

namespace Lexer

/-- A lexer at the beginning of a text. -/
def ofString (text : String) : Lexer := { source := text.toList }

/-- Whether the cursor is at or behind the end of the text. -/
def atEnd (l : Lexer) : Bool := l.source.length ≤ l.cursor.position

/-- The character at an offset, where negative offsets count from the end of the text. -/
def characterAt? (l : Lexer) (offset : Int) : Option Char :=
  if 0 ≤ offset then l.source[offset.toNat]?
  else if 0 ≤ l.source.length + offset then l.source[(l.source.length + offset).toNat]?
  else none

/-- The character some way ahead of the cursor, if that place lies within the text. No place before
    the beginning does. -/
def ahead? (l : Lexer) (distance : Int) : Option Char :=
  if 0 ≤ l.cursor.position + distance then l.source[(l.cursor.position + distance).toNat]?
  else none

/-- The character under the cursor, and nothing at the end of the text. -/
def current (l : Lexer) : Step (Option Char) :=
  if l.atEnd then .ok none l
  else
    match l.characterAt? l.cursor.position with
    | some c => .ok (some c) l
    | none => .error (.beforeBeginning l.cursor.position) l

/-- Consumes the character under the cursor. -/
def advance (l : Lexer) : Step Char :=
  if l.atEnd then .error (.pastEnd l.cursor.position l.cursor.line) l
  else
    match l.characterAt? l.cursor.position with
    | some c => .ok c { l with cursor := l.cursor.step c }
    | none => .error (.beforeBeginning l.cursor.position) l

/-- The text from the cursor on. There is none from a cursor before the beginning of the text. -/
def rest (l : Lexer) : List Char :=
  if 0 ≤ l.cursor.position then l.source.drop l.cursor.position.toNat else []

/-- Moves the cursor over a text that lies there. -/
def skip (l : Lexer) (text : List Char) : Lexer := { l with cursor := l.cursor.walk text }

/-- Moves the cursor over the blanks that lie there. -/
def skipBlanks (l : Lexer) : Lexer := l.skip (l.rest.takeWhile Text.isBlank)

/-- Consumes the longest numeral at the cursor and answers it without its separators. -/
def readNumeral (l : Lexer) : Step String :=
  let numeral := Lexeme.numeral l.rest
  .ok (String.ofList (Lexeme.withoutSeparators numeral)) (l.skip numeral)

/-- Reads the next token and notes nothing. A character before the beginning of the text, which
    only a negative offset reaches, is a token that no grammar admits. -/
def scan (l : Lexer) : Step Token :=
  if 0 ≤ l.cursor.position then
    let (token, cursor) := Token.scan l.cursor l.rest
    .ok token { l with cursor := cursor }
  else
    match l.advance with
    | .ok c l' => .ok ⟨.invalid, String.ofList [c], l.cursor⟩ l'
    | .error fault l' => .error fault l'

/-- Adds an event to the journal. -/
def note (l : Lexer) (event : Event) : Lexer := { l with journal := l.journal ++ [event] }

/-- Reads the next token, and notes it if no grammar admits it. -/
def next (l : Lexer) : Step Token :=
  match l.scan with
  | .ok token l' => .ok token (if token.kind = .invalid then l'.note (.invalid token) else l')
  | .error fault l' => .error fault l'

/-- The token that `next` would answer, with the lexer unchanged. -/
def peek (l : Lexer) : Step Token :=
  match l.scan with
  | .ok token _ => .ok token l
  | .error fault _ => .error fault l

/-- The complaints about the source text so far, in order. -/
def diagnostics (l : Lexer) : List String := l.journal.filterMap Event.complaint?

/-- How many characters lie between the cursor and the end of the text. -/
def remaining (l : Lexer) : Nat := (l.source.length - l.cursor.position).toNat

end Lexer

end LetArith
