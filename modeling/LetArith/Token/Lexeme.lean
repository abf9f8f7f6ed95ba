import LetArith.Text.Blank
import LetArith.Text.Digit
import LetArith.Text.Letter
import LetArith.Token.Basic

namespace LetArith

/-- A piece of text with the kind of token that it forms. -/
structure Lexeme where
  kind : Kind
  text : List Char
  deriving DecidableEq, Repr

namespace Lexeme

/-- The mark that may stand between two digits of a number and does not count. -/
def digitSeparator : Char := '_'

/-- The mark before the fraction of a number. -/
def decimalPoint : Char := '.'

/-- Whether a text begins with a digit. -/
def beginsWithDigit : List Char → Bool
  | [] => false
  | c :: _ => Text.isDigit c

/-- The numeral at the beginning of a text: digits, single separators between two digits, and at
    most one point. The first argument says whether a digit comes directly before the text, the
    second whether a point came before it. -/
def numeralAfter (digitBefore pointBefore : Bool) : List Char → List Char
  | [] => []
  | c :: rest =>
    if Text.isDigit c then c :: numeralAfter true pointBefore rest
    else if c = digitSeparator && digitBefore && beginsWithDigit rest then
      c :: numeralAfter false pointBefore rest
    else if c = decimalPoint && !pointBefore then c :: numeralAfter false true rest
    else []

/-- The longest numeral at the beginning of a text. It may be empty, or be a point alone. -/
def numeral (text : List Char) : List Char := numeralAfter false false text

/-- A numeral without its separators. -/
def withoutSeparators (text : List Char) : List Char := text.filter (· != digitSeparator)

/-- The lexeme at the beginning of a text, if the text is not empty. -/
def first? : List Char → Option Lexeme
  | [] => none
  | c :: rest =>
    match Kind.ofSign? c with
    | some kind => some ⟨kind, [c]⟩
    | none =>
      if Text.isLetter c then
        let word := (c :: rest).takeWhile Text.isLetter
        some ⟨Kind.ofWord (String.ofList word), word⟩
      else if Text.isDigit c then some ⟨.number, numeral (c :: rest)⟩
      else some ⟨.invalid, [c]⟩

/-- The text of the token that a lexeme forms. -/
def literal (lexeme : Lexeme) : String :=
  String.ofList (if lexeme.kind = .number then withoutSeparators lexeme.text else lexeme.text)

end Lexeme

/-- The token at the beginning of a text that starts at a cursor, behind the blanks there, and the
    cursor behind the token. At the end of the text it is the token for the end. -/
def Token.scan (cursor : Cursor) (text : List Char) : Token × Cursor :=
  let start := cursor.walk (text.takeWhile Text.isBlank)
  match Lexeme.first? (text.dropWhile Text.isBlank) with
  | none => (⟨.endOfInput, "", start⟩, start)
  | some lexeme => (⟨lexeme.kind, lexeme.literal, start⟩, start.walk lexeme.text)

end LetArith
