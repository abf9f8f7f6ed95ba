import LetArith.Binary64.Text
import LetArith.Text.Hexadecimal

namespace LetArith

/-- A JSON document. The fields of an object keep their order. -/
inductive Json where
  | integer (value : Int)
  | real (value : Binary64)
  | text (value : String)
  | array (items : List Json)
  | object (fields : List (String × Json))

namespace Json

/-- A code point below `0x10000` as an escape. -/
def escapeUnit (code : Nat) : List Char := '\\' :: 'u' :: Text.hexadecimal 4 code

/-- One character inside a text. What is not ASCII is written as an escape, above U+FFFF as the
    escapes of its two surrogates. -/
def escape (c : Char) : List Char :=
  if c = '"' ∨ c = '\\' then ['\\', c]
  else if c = '\n' then ['\\', 'n']
  else if c = '\r' then ['\\', 'r']
  else if c = '\t' then ['\\', 't']
  else if c = '\x08' then ['\\', 'b']
  else if c = '\x0c' then ['\\', 'f']
  else if 0x20 ≤ c.toNat ∧ c.toNat < 0x7F then [c]
  else if c.toNat < 0x10000 then escapeUnit c.toNat
  else
    escapeUnit (0xD800 + (c.toNat - 0x10000) / 0x400)
      ++ escapeUnit (0xDC00 + (c.toNat - 0x10000) % 0x400)

/-- A text between quotation marks. -/
def quoted (text : String) : String :=
  String.ofList ('"' :: text.toList.flatMap escape ++ ['"'])

/-- The beginning of a line at a level. -/
def newLine (level : Nat) : String := "\n" ++ String.ofList (List.replicate (2 * level) ' ')

/-- Entries between brackets, each on lines of its own, one level below the brackets. -/
def enclosed (opening closing : String) (level : Nat) (entries : List String) : String :=
  if entries.isEmpty then opening ++ closing
  else
    opening ++ newLine (level + 1) ++ ("," ++ newLine (level + 1)).intercalate entries
      ++ newLine level ++ closing

mutual

/-- A document as text, when it begins at a level. -/
def renderAt (level : Nat) : Json → String
  | .integer value => toString value
  | .real value => value.text Binary64.documentFormat
  | .text value => quoted value
  | .array items => enclosed "[" "]" level (renderItems (level + 1) items)
  | .object fields => enclosed "\x7b" "\x7d" level (renderFields (level + 1) fields)

/-- The items of an array as texts. -/
def renderItems (level : Nat) : List Json → List String
  | [] => []
  | item :: items => renderAt level item :: renderItems level items

/-- The fields of an object as texts. -/
def renderFields (level : Nat) : List (String × Json) → List String
  | [] => []
  | (name, value) :: fields =>
    (quoted name ++ ": " ++ renderAt level value) :: renderFields level fields

end

/-- A document as text. -/
def render (document : Json) : String := renderAt 0 document

end Json

end LetArith
