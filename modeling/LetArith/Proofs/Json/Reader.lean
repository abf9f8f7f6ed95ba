import LetArith.Proofs.Json.Composed

namespace LetArith.Json

/-- The value of a hexadecimal digit. -/
def hexValue? (c : Char) : Option Nat :=
  if '0' ≤ c ∧ c ≤ '9' then some (c.toNat - '0'.toNat)
  else if 'a' ≤ c ∧ c ≤ 'f' then some (c.toNat - 'a'.toNat + 10)
  else if 'A' ≤ c ∧ c ≤ 'F' then some (c.toNat - 'A'.toNat + 10)
  else none

/-- What the letters behind a backslash stand for. -/
def shortEscapes : List (Char × Char) := [
  ('"', '"'), ('\\', '\\'), ('/', '/'), ('b', '\x08'), ('f', '\x0c'), ('n', '\n'), ('r', '\r'),
  ('t', '\t')]

/-- The codes of what stands between quotation marks, where an escape of four hexadecimal digits has
    the code that it names. -/
def codes? : List Char → Option (List Nat)
  | [] => some []
  | '\\' :: 'u' :: a :: b :: c :: d :: raw => do
    let a ← hexValue? a
    let b ← hexValue? b
    let c ← hexValue? c
    let d ← hexValue? d
    let codes ← codes? raw
    some ((((a * 16 + b) * 16 + c) * 16 + d) :: codes)
  | '\\' :: letter :: raw => do
    let c ← shortEscapes.lookup letter
    let codes ← codes? raw
    some (c.toNat :: codes)
  | c :: raw =>
    if c = '"' ∨ c = '\\' ∨ c.toNat < 0x20 then none else (codes? raw).map (c.toNat :: ·)

/-- The character of a code, if it has one: surrogates have none. -/
def scalar? (code : Nat) : Option Char :=
  if code.isValidChar then some (Char.ofNat code) else none

/-- The characters of codes, where two surrogates are one character. -/
def scalars? : List Nat → Option (List Char)
  | [] => some []
  | [code] => (scalar? code).map fun c => [c]
  | code :: next :: codes =>
    if (0xD800 ≤ code ∧ code < 0xDC00) ∧ 0xDC00 ≤ next ∧ next < 0xE000 then
      (scalars? codes).map (Char.ofNat (0x10000 + (code - 0xD800) * 0x400 + (next - 0xDC00)) :: ·)
    else do
      let c ← scalar? code
      let others ← scalars? (next :: codes)
      some (c :: others)

/-- The text that is written between quotation marks. -/
def unescape? (raw : List Char) : Option String := do
  let codes ← codes? raw
  let scalars ← scalars? codes
  some (String.ofList scalars)

/-- The number that a row of one digit or more denotes. -/
def digits? (text : List Char) : Option Nat :=
  if text ≠ [] ∧ text.all Char.isDigit then some (Text.digitsValue text) else none

/-- The exponent that is written behind its mark. -/
def exponent? : List Char → Option Int
  | '-' :: digits => (digits? digits).map fun (value : Nat) => -(value : Int)
  | '+' :: digits => (digits? digits).map Int.ofNat
  | digits => (digits? digits).map Int.ofNat

/-- The digits behind the point, if there is one. -/
def fraction? : List Char → Option (List Char)
  | [] => some []
  | _ :: digits => (digits? digits).map fun _ => digits

/-- The exponent, which is zero if there is none. -/
def power? : List Char → Option Int
  | [] => some 0
  | _ :: exponent => exponent? exponent

/-- The number of a sign and the text behind it. -/
def magnitude? (negative : Bool) (text : List Char) : Option Json := do
  let mantissa := text.takeWhile fun c => c != 'e' && c != 'E'
  let whole := mantissa.takeWhile (· != '.')
  let power := text.drop mantissa.length
  let value ← digits? whole
  let behind ← fraction? (mantissa.drop whole.length)
  let exponent ← power? power
  if whole.head? = some '0' ∧ whole ≠ ['0'] then none
  else if behind = [] ∧ power = [] then some (.integer (if negative then -value else value))
  else
    some (.real
      (.ofDecimal negative (Text.digitsValue (whole ++ behind)) (exponent - behind.length)))

/-- The word for infinity. -/
def infinity : List Char := ['I', 'n', 'f', 'i', 'n', 'i', 't', 'y']

/-- The words for what is no finite number. -/
def words : List (List Char × Binary64) :=
  [(['N', 'a', 'N'], .nan), (infinity, .infinite false), ('-' :: infinity, .infinite true)]

/-- The number that a text denotes. -/
def number? : List Char → Option Json
  | '-' :: magnitude => magnitude? true magnitude
  | magnitude => magnitude? false magnitude

/-- The document that a bare word denotes. Numbers without a point and an exponent are integers, all
    others are reals. -/
def word? (text : List Char) : Option Json :=
  ((words.lookup text).map real).or (number? text)

/-- The characters that bare words are made of. -/
def isBare (c : Char) : Bool := !isSpace c && !isMark c && c != '"'

/-- An array or an object that is still open, with what has been read of it. An object waits for the
    value of a name. -/
inductive Frame where
  | array (items : List Json)
  | object (fields : List (String × Json)) (name : String)

/-- What comes next. -/
inductive Expected where
  /-- A value, or instead of it the closing bracket of an empty array. -/
  | value (closable : Bool)
  /-- The name of a field, or instead of it the closing bracket of an empty object. -/
  | name (fields : List (String × Json)) (closable : Bool)
  /-- The colon behind a name. -/
  | colon (fields : List (String × Json)) (name : String)
  /-- A comma or a closing bracket behind a value, or the end of the text. -/
  | more (value : Json)

/-- What the last characters belong to. -/
inductive Mode where
  | between
  | quoted (raw : List Char) (escaped : Bool)
  | bare (word : List Char)

/-- A reader in the midst of a text. -/
structure Reader where
  frames : List Frame
  expected : Expected
  mode : Mode

namespace Reader

/-- The reader before the first character of a text. -/
def beginning : Reader := ⟨[], .value false, .between⟩

/-- The reader behind a value. -/
def receiveValue (reader : Reader) (value : Json) : Option Reader :=
  match reader.expected with
  | .value _ => some ⟨reader.frames, .more value, .between⟩
  | _ => none

/-- The reader behind a quoted text. -/
def receiveText (reader : Reader) (text : String) : Option Reader :=
  match reader.expected with
  | .value _ => some ⟨reader.frames, .more (.text text), .between⟩
  | .name fields _ => some ⟨reader.frames, .colon fields text, .between⟩
  | _ => none

/-- The reader behind a bracket, a comma or a colon. -/
def receiveMark (reader : Reader) (mark : Char) : Option Reader :=
  match mark, reader.expected, reader.frames with
  | '[', .value _, frames => some ⟨.array [] :: frames, .value true, .between⟩
  | '\x7b', .value _, frames => some ⟨frames, .name [] true, .between⟩
  | ']', .value true, .array items :: frames => some ⟨frames, .more (.array items), .between⟩
  | '\x7d', .name fields true, frames => some ⟨frames, .more (.object fields), .between⟩
  | ':', .colon fields name, frames => some ⟨.object fields name :: frames, .value false, .between⟩
  | ',', .more value, .array items :: frames =>
    some ⟨.array (items ++ [value]) :: frames, .value false, .between⟩
  | ',', .more value, .object fields name :: frames =>
    some ⟨frames, .name (fields ++ [(name, value)]) false, .between⟩
  | ']', .more value, .array items :: frames =>
    some ⟨frames, .more (.array (items ++ [value])), .between⟩
  | '\x7d', .more value, .object fields name :: frames =>
    some ⟨frames, .more (.object (fields ++ [(name, value)])), .between⟩
  | _, _, _ => none

/-- The reader where a bare word is over. -/
def settle (reader : Reader) : Option Reader :=
  match reader.mode with
  | .between => some reader
  | .quoted _ _ => none
  | .bare word => do reader.receiveValue (← word? word)

/-- The reader behind one more character, where no word and no quoted text is open. -/
def enter (reader : Reader) (c : Char) : Option Reader :=
  if c = '"' then some { reader with mode := .quoted [] false }
  else if isSpace c then some reader
  else if isMark c then reader.receiveMark c
  else some { reader with mode := .bare [c] }

/-- The reader behind one more character. -/
def step (reader : Reader) (c : Char) : Option Reader :=
  match reader.mode with
  | .quoted raw true => some { reader with mode := .quoted (raw ++ [c]) false }
  | .quoted raw false =>
    if c = '"' then do reader.receiveText (← unescape? raw)
    else some { reader with mode := .quoted (raw ++ [c]) (c = '\\') }
  | .bare word =>
    if isBare c then some { reader with mode := .bare (word ++ [c]) }
    else do (← reader.settle).enter c
  | .between => reader.enter c

/-- The document that has been read at the end of a text. -/
def document? (reader : Reader) : Option Json :=
  match reader.expected, reader.frames with
  | .more value, [] => some value
  | _, _ => none

end Reader

/-- Reads a text as a document. -/
def read? (text : List Char) : Option Json := do
  let reader ← text.foldlM Reader.step .beginning
  (← reader.settle).document?

end LetArith.Json
