import LetArith.Binary64.Shortest
import Mathlib.Tactic.Positivity
import Mathlib.Tactic.Ring

namespace LetArith.Binary64

private theorem divideToEven_mul_mul {factor : Nat} (hfactor : 0 < factor)
    (numerator denominator : Nat) :
    divideToEven (factor * numerator) (factor * denominator) =
      divideToEven numerator denominator := by
  have hrest (rest bound : Nat) : 2 * (factor * rest) < factor * bound ↔ 2 * rest < bound := by
    rw [Nat.mul_left_comm, Nat.mul_lt_mul_left hfactor]
  have hexceeds (rest bound : Nat) : factor * bound < 2 * (factor * rest) ↔ bound < 2 * rest := by
    rw [Nat.mul_left_comm, Nat.mul_lt_mul_left hfactor]
  simp only [divideToEven, Nat.mul_div_mul_left _ _ hfactor, Nat.mul_mod_mul_left, hrest, hexceeds]

private theorem divideToEven_mul_self (n : Nat) {denominator : Nat} (hpositive : 0 < denominator) :
    divideToEven (n * denominator) denominator = n := by
  simp [divideToEven, Nat.mul_mod_left, Nat.mul_div_left n hpositive, hpositive]

/-- The magnitude nearest to a quotient depends on its value only. -/
theorem nearestRank_mul_mul {factor : Nat} (hfactor : 0 < factor) (numerator denominator : Nat) :
    nearestRank (factor * numerator) (factor * denominator) = nearestRank numerator denominator := by
  simp only [nearestRank, Nat.mul_assoc, Nat.mul_div_mul_left _ _ hfactor,
    divideToEven_mul_mul hfactor]

/-- A decimal is the quotient of its digits and a power of ten over another power of ten, whichever
    two these are. -/
theorem decimalRank_eq_nearestRank (digits : Nat) {exponent : Int} {above below : Nat}
    (hexponent : exponent = above - below) :
    decimalRank digits exponent = nearestRank (digits * 10 ^ above) (10 ^ below) := by
  unfold decimalRank
  split
  · have habove : above = below + exponent.toNat := by omega
    have hfactor : 0 < 10 ^ below := by positivity
    rw [← nearestRank_mul_mul hfactor, habove]
    congr 1
    · change 10 ^ below * (digits * 10 ^ exponent.toNat) = _
      ring
    · rw [Nat.mul_one]
  · have hbelow : below = above + (-exponent).toNat := by omega
    have hfactor : 0 < 10 ^ above := by positivity
    rw [← nearestRank_mul_mul hfactor, hbelow]
    congr 1
    · exact Nat.mul_comm _ _
    · rw [Nat.pow_add]
      rfl

/-- Zeros at the end of the digits of a decimal count as much in its exponent. -/
theorem decimalRank_mul_pow (digits zeros : Nat) (exponent : Int) :
    decimalRank (digits * 10 ^ zeros) exponent = decimalRank digits (exponent + zeros) := by
  have hexponent : exponent = exponent.toNat - (-exponent).toNat := by omega
  have hsum : exponent + zeros = (exponent.toNat + zeros : Nat) - (-exponent).toNat := by omega
  rw [decimalRank_eq_nearestRank _ hexponent, decimalRank_eq_nearestRank _ hsum]
  congr 1
  ring

theorem decimalRank_zero (exponent : Int) : decimalRank 0 exponent = 0 := by
  unfold decimalRank
  split <;> simp [nearestRank, divideToEven]

/-- A magnitude has a significand of at most 53 bits, and of less only where it is not shifted. -/
theorem exists_units_eq (rank : Nat) :
    ∃ significand shift, units rank = significand * 2 ^ shift ∧
      rank = shift * binade + significand ∧ (units rank).log2 - 52 = shift := by
  have hbinade : binade = 2 ^ 52 := rfl
  unfold units
  split
  · rename_i hsmall
    refine ⟨rank, 0, by simp, by simp, ?_⟩
    have hlog : rank.log2 ≤ 52 := by
      by_cases hzero : rank = 0
      · simp [hzero]
      · exact Nat.le_of_lt ((Nat.log2_lt hzero).2 hsmall)
    exact Nat.sub_eq_zero_of_le hlog
  · rename_i hlarge
    have hdivided : 1 ≤ rank / binade :=
      (Nat.le_div_iff_mul_le (by rw [hbinade]; positivity)).2 (by omega)
    have hrest : rank % binade < binade := Nat.mod_lt rank (by rw [hbinade]; positivity)
    have hparts := Nat.div_add_mod' rank binade
    obtain ⟨shift, hshift⟩ := Nat.exists_eq_add_of_le' hdivided
    rw [hshift] at hparts ⊢
    refine ⟨binade + rank % binade, shift, rfl, ?_, ?_⟩
    · rw [Nat.succ_mul] at hparts
      omega
    · have hlog : ((binade + rank % binade) * 2 ^ shift).log2 = 52 + shift := by
        have hpositive : 0 < 2 ^ shift := by positivity
        have hnonzero : (binade + rank % binade) * 2 ^ shift ≠ 0 := by
          rw [hbinade]
          positivity
        have hpow : 2 ^ (52 + shift) = binade * 2 ^ shift := Nat.pow_add 2 52 shift
        rw [Nat.log2_eq_iff hnonzero, Nat.pow_succ, hpow]
        constructor
        · exact Nat.mul_le_mul_right _ (Nat.le_add_right _ _)
        · have hlast : binade + rank % binade < binade * 2 := by omega
          calc (binade + rank % binade) * 2 ^ shift
              < binade * 2 * 2 ^ shift := Nat.mul_lt_mul_of_pos_right hlast hpositive
            _ = binade * 2 ^ shift * 2 := by ring
      change ((binade + rank % binade) * 2 ^ shift).log2 - 52 = shift
      rw [hlog, Nat.add_sub_cancel_left]

theorem unitsInOne_pos : 0 < unitsInOne := by
  unfold unitsInOne
  generalize 1074 = exponent
  exact Nat.two_pow_pos exponent

/-- The units of a magnitude are rounded to it. -/
theorem nearestRank_units (rank : Nat) : nearestRank (units rank) unitsInOne = rank := by
  obtain ⟨significand, shift, hunits, hrank, hlog⟩ := exists_units_eq rank
  have hpositive : 0 < unitsInOne * 2 ^ shift :=
    Nat.mul_pos unitsInOne_pos (Nat.two_pow_pos shift)
  have hround : divideToEven (units rank * unitsInOne) (unitsInOne * Nat.pow 2 shift) =
      significand := by
    rw [hunits, Nat.mul_assoc, Nat.mul_comm (2 ^ shift)]
    exact divideToEven_mul_self significand hpositive
  simp only [nearestRank, Nat.mul_div_left _ unitsInOne_pos, hlog, hround]
  exact hrank.symm

private theorem nearestRank_mul_pow_five (n exponent : Nat) :
    nearestRank (n * Nat.pow 5 exponent) (Nat.pow 10 exponent) =
      nearestRank n (Nat.pow 2 exponent) := by
  have htens : Nat.pow 10 exponent = Nat.pow 5 exponent * Nat.pow 2 exponent :=
    Nat.mul_pow 5 2 exponent
  have hpositive : 0 < Nat.pow 5 exponent := Nat.pow_pos (by decide)
  rw [htens, Nat.mul_comm n, nearestRank_mul_mul hpositive]

private theorem decimalRank_neighbour {rank digits : Nat} {grid : Int}
    (hdigits : readsBack? rank grid = some digits) : decimalRank digits grid = rank := by
  simpa using List.find?_some hdigits

/-- The last grid has a decimal for every magnitude, and so the search ends with one that is rounded
    back. -/
theorem decimalRank_firstOnGrids (rank depth : Nat) :
    decimalRank (firstOnGrids rank depth).digits (firstOnGrids rank depth).exponent = rank := by
  induction depth with
  | zero =>
    have hnegative : ¬(0 : Int) ≤ -1074 := by decide
    have hlast : (-(-1074 : Int)).toNat = 1074 := rfl
    have hunits := nearestRank_units rank
    unfold unitsInOne at hunits
    rw [firstOnGrids, decimalRank, if_neg hnegative, hlast]
    generalize 1074 = last at hunits ⊢
    rw [nearestRank_mul_pow_five, hunits]
  | succ depth ih =>
    simp only [firstOnGrids]
    split
    · rename_i digits hdigits
      exact decimalRank_neighbour hdigits
    · exact ih

/-- The shortest decimal of a magnitude is rounded back to it. -/
theorem decimalRank_shortest (rank : Nat) :
    decimalRank (shortest rank).digits (shortest rank).exponent = rank :=
  decimalRank_firstOnGrids rank (leadingDepth rank)

theorem digits_shortest_pos {rank : Nat} (hrank : 0 < rank) : 0 < (shortest rank).digits := by
  by_contra hzero
  have hround := decimalRank_shortest rank
  rw [Nat.eq_zero_of_not_pos hzero, decimalRank_zero] at hround
  omega

end LetArith.Binary64
