namespace LetArith

/-- The number of magnitudes in a binade: `2 ^ 52`. -/
def Binary64.binade : Nat := Nat.pow 2 52

/-- The number of units in one: `2 ^ 1074`. -/
def Binary64.unitsInOne : Nat := Nat.pow 2 1074

/-- The number of finite magnitudes: 2047 binades, the first of which holds zero and the subnormal
    magnitudes. -/
def Binary64.finiteCount : Nat := 2047 * Binary64.binade

/-- A binary64 number (an IEEE 754 double). A finite magnitude is known by its rank among them: that
    of 0 is 0, and that of the least positive one, which is called the unit and is `2 ^ (-1074)`,
    is 1. Zero has a sign; all that is not a number is one value. -/
inductive Binary64 where
  | finite (negative : Bool) (rank : Fin Binary64.finiteCount)
  | infinite (negative : Bool)
  | nan
  deriving DecidableEq

namespace Binary64

/-- A finite magnitude, counted in units. -/
def units (rank : Nat) : Nat :=
  if rank < binade then rank
  else (binade + rank % binade) * Nat.pow 2 (rank / binade - 1)

/-- The quotient rounded to the nearest integer, a half to the even neighbour. -/
def divideToEven (numerator denominator : Nat) : Nat :=
  let quotient := numerator / denominator
  let rest := numerator % denominator
  if 2 * rest < denominator then quotient
  else if denominator < 2 * rest then quotient + 1
  else if quotient % 2 = 0 then quotient
  else quotient + 1

/-- The rank of the magnitude nearest to a quotient, where the ranks go on beyond the finite ones.
    The significand has 53 bits, and fewer only where the unit allows no more. -/
def nearestRank (numerator denominator : Nat) : Nat :=
  let inUnits := numerator * unitsInOne
  let shift := (inUnits / denominator).log2 - 52
  shift * binade + divideToEven inUnits (denominator * Nat.pow 2 shift)

/-- The number of a sign and a rank; the ranks beyond the finite ones are infinite. -/
def ofRank (negative : Bool) (rank : Nat) : Binary64 :=
  if h : rank < finiteCount then .finite negative ⟨rank, h⟩ else .infinite negative

/-- The rank of the magnitude nearest to `digits * 10 ^ exponent`. -/
def decimalRank (digits : Nat) (exponent : Int) : Nat :=
  if 0 ≤ exponent then nearestRank (digits * Nat.pow 10 exponent.toNat) 1
  else nearestRank digits (Nat.pow 10 (-exponent).toNat)

/-- The number nearest to `digits * 10 ^ exponent`, with a sign. -/
def ofDecimal (negative : Bool) (digits : Nat) (exponent : Int) : Binary64 :=
  ofRank negative (decimalRank digits exponent)

/-- Comparison of values: the two zeros are equal, and nothing equals what is not a number. -/
protected def beq : Binary64 → Binary64 → Bool
  | .finite s m, .finite t n => m = n && (s = t || m.val = 0)
  | .infinite s, .infinite t => s = t
  | _, _ => false

instance : BEq Binary64 := ⟨Binary64.beq⟩

end Binary64

end LetArith
