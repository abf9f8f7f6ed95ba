import LetArith.Text.Hexadecimal
import LetArith.Text.Printable

namespace LetArith.Text

/-- The quotation mark for a text: double when it holds an apostrophe and no double quotation
    mark, single otherwise. -/
def quotationMark (text : List Char) : Char :=
  if text.contains '\'' && !text.contains '"' then '"' else '\''

/-- One character between quotation marks. -/
def escapeQuoted (mark c : Char) : List Char :=
  if c = mark ∨ c = '\\' then ['\\', c]
  else if c = '\t' then ['\\', 't']
  else if c = '\n' then ['\\', 'n']
  else if c = '\r' then ['\\', 'r']
  else if isPrintable c then [c]
  else if c.toNat < 0x100 then '\\' :: 'x' :: hexadecimal 2 c.toNat
  else if c.toNat < 0x10000 then '\\' :: 'u' :: hexadecimal 4 c.toNat
  else '\\' :: 'U' :: hexadecimal 8 c.toNat

/-- A text between quotation marks. -/
def quoteChars (text : List Char) : List Char :=
  let mark := quotationMark text
  mark :: text.flatMap (escapeQuoted mark) ++ [mark]

/-- A text between quotation marks. -/
def quote (text : String) : String := String.ofList (quoteChars text.toList)

end LetArith.Text
