import LetArith.Binary64.Shortest
import LetArith.Text.Digit

namespace LetArith.Binary64

/-- The decisions of a number format. -/
structure Format where
  /-- The least exponent of the first digit that is written positionally. -/
  leastPositional : Int
  /-- The least exponent of the first digit above those that are written positionally. -/
  leastScientific : Int
  /-- The least number of digits of a written exponent. -/
  exponentWidth : Nat
  /-- The word for infinity. -/
  infinity : String
  /-- The word for what is not a number. -/
  notANumber : String

/-- Numbers in a listing: positional from a ten thousandth to below `10 ^ 16`, at least one digit
    behind the point, and exponents of at least two digits. -/
def listingFormat : Format := ⟨-4, 16, 2, "inf", "nan"⟩

/-- Numbers in a JSON document: as in a listing, with other words. -/
def documentFormat : Format := { listingFormat with infinity := "Infinity", notANumber := "NaN" }

/-- Digits with a point behind the first `whole` of them and at least one digit behind it. -/
def positional (digits : List Char) (whole : Nat) : List Char :=
  let padded := digits ++ List.replicate (whole - digits.length) '0'
  padded.take whole ++ '.' :: (if padded.length ≤ whole then ['0'] else padded.drop whole)

/-- Digits with a point behind the first one, if more follow. -/
def pointed : List Char → List Char
  | [] => []
  | [digit] => [digit]
  | digit :: rest => digit :: '.' :: rest

/-- A sign, and at least `width` digits. -/
def exponentText (width : Nat) (exponent : Int) : List Char :=
  let digits := Nat.toDigits 10 exponent.natAbs
  (if exponent < 0 then '-' else '+') :: List.replicate (width - digits.length) '0' ++ digits

/-- Digits without the zeros at their end. -/
def significant (digits : List Char) : List Char :=
  (digits.reverse.dropWhile (· == '0')).reverse

/-- A positive decimal as text. -/
def Decimal.text (format : Format) (d : Decimal) : List Char :=
  let written := Nat.toDigits 10 d.digits
  let exponent := d.exponent + written.length - 1
  let digits := significant written
  if format.leastPositional ≤ exponent && exponent < format.leastScientific then
    if 0 ≤ exponent then positional digits (exponent.toNat + 1)
    else positional (List.replicate (-exponent).toNat '0' ++ digits) 1
  else pointed digits ++ 'e' :: exponentText format.exponentWidth exponent

/-- A number as text. -/
def text (format : Format) (x : Binary64) : String :=
  match x with
  | .nan => format.notANumber
  | .infinite negative => (if negative then "-" else "") ++ format.infinity
  | .finite negative rank =>
    (if negative then "-" else "") ++
      (if rank.val = 0 then "0.0" else String.ofList ((shortest rank.val).text format))

/-- The number of a row of digits of any script, with at most one point among them. -/
def ofNumeral (negative : Bool) (numeral : List Char) (exponent : Int) : Binary64 :=
  let whole := numeral.takeWhile (· != '.')
  let fraction := (numeral.dropWhile (· != '.')).drop 1
  ofDecimal negative (Text.digitsValue (whole ++ fraction)) (exponent - fraction.length)

end LetArith.Binary64
