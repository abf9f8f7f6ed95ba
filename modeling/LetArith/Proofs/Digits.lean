import LetArith.Binary64.Text
import Mathlib.Algebra.Group.Nat.Defs
import Mathlib.Data.List.DropRight

namespace LetArith

namespace Text

theorem contains_of_isDigit {c : Char} (hc : c.isDigit) :
    CodeRange.contains ⟨0x30, 0x39⟩ c = true := by
  simpa [CodeRange.contains] using Char.isDigit_iff_toNat.1 hc

/-- The digits of ASCII are decimal digits. -/
theorem isDigit_of_ascii {c : Char} (hc : c.isDigit) : isDigit c := by
  rw [isDigit, inRanges, digitRanges, List.any_cons, contains_of_isDigit hc, Bool.true_or]

theorem digitValue_of_isDigit {c : Char} (hc : c.isDigit) : digitValue c = c.toNat - '0'.toNat := by
  obtain ⟨hleast, hgreatest⟩ := Char.isDigit_iff_toNat.1 hc
  have hfind : digitRanges.find? (·.contains c) = some ⟨0x30, 0x39⟩ :=
    List.find?_cons_of_pos (contains_of_isDigit hc)
  have hzero : '0'.toNat = 0x30 := rfl
  have hnine : '9'.toNat = 0x39 := rfl
  simp only [digitValue, hfind]
  omega

/-- ASCII digits denote what they denote in the library. -/
theorem digitsValue_eq_ofDigitChars {digits : List Char} (hdigits : ∀ c ∈ digits, c.isDigit) :
    digitsValue digits = Nat.ofDigitChars 10 digits 0 := by
  rw [digitsValue, Nat.ofDigitChars_eq_foldl]
  apply List.foldl_ext
  intro value c hc
  rw [digitValue_of_isDigit (hdigits c hc)]

theorem isDigit_toDigits (n : Nat) : ∀ c ∈ Nat.toDigits 10 n, c.isDigit :=
  fun _ hc => Nat.isDigit_of_mem_toDigits (by decide) (by decide) hc

theorem digitsValue_toDigits (n : Nat) : digitsValue (Nat.toDigits 10 n) = n := by
  rw [digitsValue_eq_ofDigitChars (isDigit_toDigits n), Nat.ofDigitChars_ten_toDigits]

theorem isDigit_zeros (count : Nat) : ∀ c ∈ List.replicate count '0', c.isDigit := by
  intro c hc
  rw [List.eq_of_mem_replicate hc]
  rfl

/-- Each zero behind a row of digits makes its value ten times as great. -/
theorem digitsValue_append_zeros {digits : List Char} (hdigits : ∀ c ∈ digits, c.isDigit)
    (count : Nat) :
    digitsValue (digits ++ List.replicate count '0') = digitsValue digits * 10 ^ count := by
  rw [digitsValue_eq_ofDigitChars (List.forall_mem_append.2 ⟨hdigits, isDigit_zeros count⟩),
    Nat.ofDigitChars_append, Nat.ofDigitChars_replicate_zero, digitsValue_eq_ofDigitChars hdigits,
    Nat.mul_comm]

/-- Zeros before a row of digits do not count. -/
theorem digitsValue_zeros_append {digits : List Char} (hdigits : ∀ c ∈ digits, c.isDigit)
    (count : Nat) :
    digitsValue (List.replicate count '0' ++ digits) = digitsValue digits := by
  rw [digitsValue_eq_ofDigitChars (List.forall_mem_append.2 ⟨isDigit_zeros count, hdigits⟩),
    Nat.ofDigitChars_append, Nat.ofDigitChars_replicate_zero, digitsValue_eq_ofDigitChars hdigits,
    Nat.mul_zero]

/-- The digits of a positive number do not begin with a zero. -/
theorem head?_toDigits_ne_zero {n : Nat} (hn : 0 < n) : (Nat.toDigits 10 n).head? ≠ some '0' := by
  induction n using Nat.strongRecOn with
  | ind n ih =>
    by_cases hsmall : n < 10
    · have hdigits : ∀ digit < 10, 0 < digit → some digit.digitChar ≠ some '0' := by decide
      rw [Nat.toDigits_of_lt_base hsmall]
      exact hdigits n hsmall hn
    · rw [Nat.toDigits_of_base_le (by decide) (by omega),
        List.head?_append_of_ne_nil _ Nat.toDigits_ne_nil]
      exact ih (n / 10) (by omega) (by omega)

end Text

namespace Binary64

theorem significant_append_zeros (digits : List Char) :
    significant digits ++ List.replicate (digits.length - (significant digits).length) '0' =
      digits := by
  have happend : significant digits ++ digits.rtakeWhile (· == '0') = digits :=
    List.rdropWhile_append_rtakeWhile
  have hzeros : digits.rtakeWhile (· == '0') =
      List.replicate (digits.length - (significant digits).length) '0' := by
    rw [List.eq_replicate_iff]
    constructor
    · have hlength := congrArg List.length happend
      rw [List.length_append] at hlength
      omega
    · intro c hc
      simpa using List.mem_rtakeWhile_imp hc
  rw [← hzeros, happend]

theorem isDigit_significant {digits : List Char} (hdigits : ∀ c ∈ digits, c.isDigit) :
    ∀ c ∈ significant digits, c.isDigit := by
  rw [← significant_append_zeros digits] at hdigits
  exact (List.forall_mem_append.1 hdigits).1

/-- A row of digits is its significant ones, ten times as great for each zero behind them. -/
theorem digitsValue_significant {digits : List Char} (hdigits : ∀ c ∈ digits, c.isDigit) :
    Text.digitsValue digits = Text.digitsValue (significant digits) *
      10 ^ (digits.length - (significant digits).length) := by
  rw [← Text.digitsValue_append_zeros (isDigit_significant hdigits), significant_append_zeros]

/-- A row that does not begin with a zero keeps its first digit. -/
theorem head?_significant {digits : List Char} (hhead : digits.head? ≠ some '0') :
    (significant digits).head? = digits.head? := by
  have happend := significant_append_zeros digits
  cases hsignificant : significant digits with
  | nil =>
    rw [hsignificant, List.nil_append, List.length_nil, Nat.sub_zero] at happend
    cases digits with
    | nil => rfl
    | cons digit digits =>
      refine absurd ?_ hhead
      rw [← happend]
      rfl
  | cons digit others =>
    rw [hsignificant] at happend
    rw [← happend]
    rfl

end Binary64

end LetArith
