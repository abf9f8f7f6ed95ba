import LetArith.Binary64.Text
import LetArith.Proofs.Rounding
import Mathlib.Algebra.Order.Field.Rat
import Mathlib.Tactic.Linarith
import Mathlib.Tactic.Positivity
import Mathlib.Tactic.Ring

namespace LetArith

namespace Binary64

/-- What is rounded to less than an even number lies below the middle of that number and the one
    before it. -/
theorem divideToEven_lt_iff (numerator : Nat) {denominator bound : Nat}
    (hpositive : 0 < denominator) (heven : bound % 2 = 0) :
    divideToEven numerator denominator < bound ↔
      2 * numerator + denominator < 2 * bound * denominator := by
  have hparts := Nat.div_add_mod numerator denominator
  have hrest := Nat.mod_lt numerator hpositive
  simp only [divideToEven]
  generalize numerator / denominator = quotient at hparts ⊢
  generalize numerator % denominator = rest at hparts hrest ⊢
  subst hparts
  rcases Nat.lt_trichotomy (quotient + 1) bound with hless | hequal | hgreater
  · have hscaled : denominator * (quotient + 2) ≤ denominator * bound :=
      Nat.mul_le_mul_left _ hless
    have hright : 2 * (denominator * quotient + rest) + denominator < 2 * bound * denominator := by
      linarith
    simp only [hright, iff_true]
    split_ifs <;> omega
  · -- The quotient is odd, so a half is rounded to the bound.
    subst hequal
    have hright : 2 * (denominator * quotient + rest) + denominator <
        2 * (quotient + 1) * denominator ↔ 2 * rest < denominator := by
      constructor <;> intro h <;> linarith
    rw [hright]
    split_ifs <;> omega
  · have hscaled : denominator * bound ≤ denominator * quotient :=
      Nat.mul_le_mul_left _ (by omega)
    have hright : ¬2 * (denominator * quotient + rest) + denominator < 2 * bound * denominator := by
      intro h
      linarith
    simp only [hright, iff_false]
    split_ifs <;> omega

section Round

variable {numerator denominator : Nat}

/-- A quotient has fewer than two binades of the steps of its own binade. -/
theorem lt_two_mul_binade (hpositive : 0 < denominator) :
    numerator < 2 * binade * (denominator * 2 ^ ((numerator / denominator).log2 - 52)) := by
  have hbinade : binade = 2 ^ 52 := rfl
  generalize hshift : (numerator / denominator).log2 - 52 = shift
  have hlog : numerator / denominator < 2 ^ ((numerator / denominator).log2 + 1) :=
    Nat.lt_log2_self
  have hlast : 2 ^ ((numerator / denominator).log2 + 1) ≤ 2 ^ (53 + shift) :=
    Nat.pow_le_pow_right (by decide) (by omega)
  calc numerator < 2 ^ (53 + shift) * denominator :=
        (Nat.div_lt_iff_lt_mul hpositive).1 (Nat.lt_of_lt_of_le hlog hlast)
    _ = 2 * binade * (denominator * 2 ^ shift) := by
      rw [hbinade, Nat.pow_add]
      ring

/-- A quotient has one binade or more of the steps of its own binade, unless its step is the least
    one. -/
theorem binade_mul_le (hpositive : 0 < denominator)
    (hlarge : 0 < (numerator / denominator).log2 - 52) :
    binade * (denominator * 2 ^ ((numerator / denominator).log2 - 52)) ≤ numerator := by
  have hbinade : binade = 2 ^ 52 := rfl
  generalize hshift : (numerator / denominator).log2 - 52 = shift at hlarge ⊢
  have hlog : (numerator / denominator).log2 = 52 + shift := by omega
  have hnonzero : numerator / denominator ≠ 0 := by
    intro hzero
    rw [hzero, Nat.log2_zero] at hlog
    omega
  have hquotient := (Nat.le_div_iff_mul_le hpositive).1 (Nat.log2_self_le hnonzero)
  have hpow : 2 ^ (52 + shift) * denominator = binade * (denominator * 2 ^ shift) := by
    rw [hbinade, Nat.pow_add]
    ring
  rwa [hlog, hpow] at hquotient

/-- A quotient is rounded to a magnitude of the first binades exactly if it lies below the middle of
    the last magnitude in them and the next one. -/
theorem round_lt_iff (numerator last : Nat) (hpositive : 0 < denominator) :
    let shift := (numerator / denominator).log2 - 52
    shift * binade + divideToEven numerator (denominator * Nat.pow 2 shift) < (last + 2) * binade ↔
      2 * numerator + denominator * 2 ^ last < 4 * binade * (denominator * 2 ^ last) := by
  intro shift
  have habove : numerator < 2 * binade * (denominator * 2 ^ shift) := lt_two_mul_binade hpositive
  have hstep (n : Nat) : 0 < denominator * 2 ^ n := Nat.mul_pos hpositive (Nat.two_pow_pos n)
  have hround (bound : Nat) (hbound : bound % 2 = 0) :
      divideToEven numerator (denominator * Nat.pow 2 shift) < bound ↔
        2 * numerator + denominator * 2 ^ shift < 2 * bound * (denominator * 2 ^ shift) :=
    divideToEven_lt_iff numerator (hstep shift) hbound
  have hsteps (m n : Nat) (h : m < n) : 2 * (denominator * 2 ^ m) ≤ denominator * 2 ^ n := by
    calc 2 * (denominator * 2 ^ m) = denominator * 2 ^ (m + 1) := by ring
      _ ≤ denominator * 2 ^ n := Nat.mul_le_mul_left _ (Nat.pow_le_pow_right (by decide) h)
  have hbinades (m n : Nat) (h : m < n) : (m + 1) * binade ≤ n * binade := Nat.mul_le_mul_right _ h
  have hlarge : 2 < binade := by decide
  rcases Nat.lt_trichotomy shift last with hless | hequal | hgreater
  · have hrounded : divideToEven numerator (denominator * Nat.pow 2 shift) < 2 * binade + 2 := by
      refine (hround _ (by omega)).2 ?_
      linarith [hstep shift]
    have hscaled := Nat.mul_le_mul_left binade (hsteps shift last hless)
    have hleast := Nat.mul_le_mul_right (denominator * 2 ^ last) hlarge.le
    have hbinade := hbinades shift last hless
    refine iff_of_true ?_ ?_ <;> linarith [hstep last]
  · subst hequal
    have hsame : 2 * (2 * binade) * (denominator * 2 ^ shift) =
        4 * binade * (denominator * 2 ^ shift) := by ring
    have hrounded := hround (2 * binade) (Nat.mul_mod_right 2 binade)
    rw [hsame] at hrounded
    rw [← hrounded, Nat.add_mul, Nat.add_lt_add_iff_left]
  · have hbelow : binade * (denominator * 2 ^ shift) ≤ numerator :=
      binade_mul_le hpositive (Nat.zero_lt_of_lt hgreater)
    have hrounded : ¬divideToEven numerator (denominator * Nat.pow 2 shift) < binade := by
      rw [hround binade (by decide)]
      linarith [hstep shift]
    have hscaled := Nat.mul_le_mul_left binade (hsteps last shift hgreater)
    have hbinade := hbinades last shift hgreater
    refine iff_of_false ?_ ?_ <;> linarith [hstep last]

/-- A quotient is rounded to a finite magnitude exactly if it lies below the middle of the greatest
    one and the power of two that would come next. -/
theorem nearestRank_lt_finiteCount_iff (numerator : Nat) (hpositive : 0 < denominator) :
    nearestRank numerator denominator < finiteCount ↔
      numerator + denominator * 2 ^ 970 < denominator * 2 ^ 1024 := by
  have hbinade : binade = 2 ^ 52 := rfl
  -- The exponents are variables here, so that no power of them is ever computed.
  have hlast (half : Nat) : 2 ^ (1074 + half + 1) = 2 * unitsInOne * 2 ^ half := by
    unfold unitsInOne
    generalize 1074 = one
    rw [Nat.pow_eq]
    ring
  have hscale (half : Nat) :
      2 * (numerator * unitsInOne) + denominator * 2 ^ (1074 + half + 1) <
          4 * binade * (denominator * 2 ^ (1074 + half + 1)) ↔
        numerator + denominator * 2 ^ half < denominator * 2 ^ (54 + half) := by
    have hfactor : 0 < 2 * unitsInOne := Nat.mul_pos (by decide) unitsInOne_pos
    have hleft : 2 * (numerator * unitsInOne) + denominator * (2 * unitsInOne * 2 ^ half) =
        2 * unitsInOne * (numerator + denominator * 2 ^ half) := by ring
    have hright : 4 * binade * (denominator * (2 * unitsInOne * 2 ^ half)) =
        2 * unitsInOne * (denominator * 2 ^ (54 + half)) := by
      rw [hbinade]
      ring
    rw [hlast, hleft, hright, Nat.mul_lt_mul_left hfactor]
  have hround := round_lt_iff (numerator * unitsInOne) (1074 + 970 + 1) hpositive
  have hexponent : 1024 = 54 + 970 := rfl
  rw [hexponent]
  exact hround.trans (hscale 970)

end Round

/-- Whether a number is finite. -/
def isFinite : Binary64 → Bool
  | .finite _ _ => true
  | .infinite _ | .nan => false

theorem isFinite_ofRank_iff (negative : Bool) (rank : Nat) :
    (ofRank negative rank).isFinite ↔ rank < finiteCount := by
  rw [ofRank]
  split
  · rename_i hrank
    exact iff_of_true rfl hrank
  · rename_i hrank
    exact iff_of_false Bool.false_ne_true hrank

end Binary64

/-- The value of a row of digits of any script, with at most one point among them. -/
def Text.numeralValue (numeral : List Char) : ℚ :=
  let whole := numeral.takeWhile (· != '.')
  let fraction := (numeral.dropWhile (· != '.')).drop 1
  digitsValue (whole ++ fraction) / 10 ^ fraction.length

/-- The number of a numeral is finite exactly if the value of the numeral is less than the greatest
    finite magnitude and half a step more. -/
theorem Binary64.isFinite_ofNumeral_iff (negative : Bool) (numeral : List Char) :
    (ofNumeral negative numeral 0).isFinite ↔
      Text.numeralValue numeral < 2 ^ 1024 - 2 ^ 970 := by
  let whole := numeral.takeWhile (· != '.')
  let fraction := (numeral.dropWhile (· != '.')).drop 1
  have hexponent : (0 : Int) - fraction.length = (0 : Nat) - fraction.length := rfl
  have hten : 0 < 10 ^ fraction.length := Nat.pow_pos (by decide)
  have hvalue (least greatest : Nat) :
      Text.digitsValue (whole ++ fraction) + 10 ^ fraction.length * 2 ^ least <
          10 ^ fraction.length * 2 ^ greatest ↔
        Text.numeralValue numeral < 2 ^ greatest - 2 ^ least := by
    have hdenominator : (0 : ℚ) < 10 ^ fraction.length := by positivity
    rw [Text.numeralValue, div_lt_iff₀ hdenominator, sub_mul, lt_sub_iff_add_lt,
      mul_comm (2 ^ least), mul_comm (2 ^ greatest)]
    exact_mod_cast Iff.rfl
  rw [ofNumeral, ofDecimal, isFinite_ofRank_iff, decimalRank_eq_nearestRank _ hexponent,
    nearestRank_lt_finiteCount_iff _ hten, Nat.pow_zero, Nat.mul_one]
  exact hvalue 970 1024

end LetArith
