import LetArith.Text.Hexadecimal

namespace LetArith.Text.Utf8

/-- Why bytes do not form a character. -/
inductive Reason where
  /-- No character begins with the byte. -/
  | invalidStart
  /-- A character was begun, and the byte that comes next cannot continue it. -/
  | invalidContinuation
  /-- A character was begun, and the input ends before it is complete. -/
  | unexpectedEnd
  deriving DecidableEq, Repr

/-- The wording of a reason. -/
def Reason.text : Reason → String
  | .invalidStart => "invalid start byte"
  | .invalidContinuation => "invalid continuation byte"
  | .unexpectedEnd => "unexpected end of data"

/-- A character, or a longest beginning of a character that no byte completes. -/
inductive Piece where
  | character (c : Char)
  | malformed (bytes : List UInt8) (reason : Reason)
  deriving DecidableEq, Repr

/-- What the first byte of a character announces: the bits that it contributes, and the interval in
    which each following byte has to lie. The intervals leave out overlong forms, surrogates and
    values above U+10FFFF. -/
def lead? (byte : UInt8) : Option (Nat × List (UInt8 × UInt8)) :=
  if byte ≤ 0x7F then some (byte.toNat, [])
  else if 0xC2 ≤ byte && byte ≤ 0xDF then some (byte.toNat - 0xC0, [(0x80, 0xBF)])
  else if byte = 0xE0 then some (0, [(0xA0, 0xBF), (0x80, 0xBF)])
  else if byte = 0xED then some (0xD, [(0x80, 0x9F), (0x80, 0xBF)])
  else if 0xE1 ≤ byte && byte ≤ 0xEF then
    some (byte.toNat - 0xE0, [(0x80, 0xBF), (0x80, 0xBF)])
  else if byte = 0xF0 then some (0, [(0x90, 0xBF), (0x80, 0xBF), (0x80, 0xBF)])
  else if 0xF1 ≤ byte && byte ≤ 0xF3 then
    some (byte.toNat - 0xF0, [(0x80, 0xBF), (0x80, 0xBF), (0x80, 0xBF)])
  else if byte = 0xF4 then some (4, [(0x80, 0x8F), (0x80, 0xBF), (0x80, 0xBF)])
  else none

/-- Completes a character from the bits and the bytes read so far, and answers the piece with the
    bytes behind it. -/
def complete (bits : Nat) (read : List UInt8) :
    List (UInt8 × UInt8) → List UInt8 → Piece × List UInt8
  | [], rest => (.character (Char.ofNat bits), rest)
  | _ :: _, [] => (.malformed read .unexpectedEnd, [])
  | (low, high) :: intervals, byte :: rest =>
    if low ≤ byte && byte ≤ high then
      complete (64 * bits + (byte.toNat - 0x80)) (read ++ [byte]) intervals rest
    else (.malformed read .invalidContinuation, byte :: rest)

/-- The first piece of a row of bytes, with the bytes behind it. -/
def firstPiece (byte : UInt8) (rest : List UInt8) : Piece × List UInt8 :=
  match lead? byte with
  | none => (.malformed [byte] .invalidStart, rest)
  | some (bits, intervals) => complete bits [byte] intervals rest

theorem length_complete_le (bits : Nat) (read : List UInt8) (intervals : List (UInt8 × UInt8))
    (rest : List UInt8) : (complete bits read intervals rest).2.length ≤ rest.length := by
  induction intervals generalizing bits read rest with
  | nil => simp [complete]
  | cons interval intervals ih =>
    cases rest with
    | nil => simp [complete]
    | cons byte rest =>
      simp only [complete]
      split
      · exact Nat.le_succ_of_le (ih _ _ _)
      · exact Nat.le_refl _

theorem length_firstPiece_le (byte : UInt8) (rest : List UInt8) :
    (firstPiece byte rest).2.length ≤ rest.length := by
  unfold firstPiece
  split
  · exact Nat.le_refl _
  · exact length_complete_le _ _ _ _

/-- A row of bytes cut into pieces from the left. -/
def pieces : List UInt8 → List Piece
  | [] => []
  | byte :: rest => (firstPiece byte rest).1 :: pieces (firstPiece byte rest).2
termination_by bytes => bytes.length
decreasing_by exact Nat.lt_succ_of_le (length_firstPiece_le byte rest)

/-- The first malformed run of a row of bytes, and where it begins. -/
structure Malformed where
  bytes : List UInt8
  position : Nat
  reason : Reason
  deriving DecidableEq, Repr

/-- The wording of a malformed run: one byte is shown, several are only located. -/
def Malformed.message (m : Malformed) : String :=
  let place :=
    match m.bytes with
    | [byte] => "byte 0x" ++ String.ofList (hexadecimal 2 byte.toNat) ++ " in position "
        ++ toString m.position
    | bytes => "bytes in position " ++ toString m.position ++ "-"
        ++ toString (m.position + bytes.length - 1)
  "'utf-8' codec can't decode " ++ place ++ ": " ++ m.reason.text

/-- The text of pieces that begin at a position, or the first malformed one. -/
def textOf (position : Nat) : List Piece → Except Malformed (List Char)
  | [] => .ok []
  | .character c :: rest =>
    match textOf (position + c.utf8Size) rest with
    | .ok text => .ok (c :: text)
    | .error m => .error m
  | .malformed bytes reason :: _ => .error ⟨bytes, position, reason⟩

/-- The text that bytes hold. -/
def decode (bytes : List UInt8) : Except Malformed (List Char) := textOf 0 (pieces bytes)

/-- The bytes of a text. -/
def encode (text : List Char) : List UInt8 := text.flatMap String.utf8EncodeChar

end LetArith.Text.Utf8
