import LetArith.Binary64.Basic

namespace LetArith.Binary64

/-- The decimal `digits * 10 ^ exponent`. -/
structure Decimal where
  digits : Nat
  exponent : Int
  deriving DecidableEq, Repr

/-- The value of a finite magnitude over `10 ^ grid`, as numerator and denominator. -/
def overGrid (rank : Nat) (grid : Int) : Nat × Nat :=
  if 0 ≤ grid then (units rank, unitsInOne * Nat.pow 10 grid.toNat)
  else (units rank * Nat.pow 10 (-grid).toNat, unitsInOne)

/-- The two multiples of `10 ^ grid` around a finite magnitude, the nearer one first; of two at the
    same distance, the even one. -/
def neighbours (rank : Nat) (grid : Int) : List Nat :=
  let (numerator, denominator) := overGrid rank grid
  let below := numerator / denominator
  if divideToEven numerator denominator = below then [below, below + 1] else [below + 1, below]

/-- A neighbour on a grid that reads back to the magnitude. -/
def readsBack? (rank : Nat) (grid : Int) : Option Nat :=
  (neighbours rank grid).find? fun digits => decimalRank digits grid = rank

/-- The first decimal that reads back, on grids from `10 ^ (depth - 1074)` downwards. On the last
    one every finite magnitude is itself a point. -/
def firstOnGrids (rank : Nat) : (depth : Nat) → Decimal
  | 0 => ⟨units rank * Nat.pow 5 1074, -1074⟩
  | depth + 1 =>
    let grid : Int := depth + 1 - 1074
    match readsBack? rank grid with
    | some digits => ⟨digits, grid⟩
    | none => firstOnGrids rank depth

/-- The number of decimal digits of a natural number. -/
def digitCount (n : Nat) : Nat := (Nat.toDigits 10 n).length

/-- The decimal exponent of the first digit of a positive finite magnitude, plus 1074. Every such
    magnitude exceeds `10 ^ (-324)`, so that `10 ^ 324` times it has as many digits before the point
    as its first digit lies above that. -/
def leadingDepth (rank : Nat) : Nat :=
  digitCount (units rank * Nat.pow 10 324 / unitsInOne) + 749

/-- The shortest decimal of a positive finite magnitude: the fewest digits that read back to it, and
    of those the ones nearest to its value. -/
def shortest (rank : Nat) : Decimal := firstOnGrids rank (leadingDepth rank)

end LetArith.Binary64
