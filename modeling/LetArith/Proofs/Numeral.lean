import LetArith.Proofs.Characters
import LetArith.Proofs.Words

namespace LetArith.Numeral

open scoped Computability
open Lexeme Words

/-- The words of one decimal digit. -/
def digit : Language Char := oneOf fun c => Text.isDigit c

/-- The rows of digits, with at most one separator between two of them. -/
def digits : Language Char := digit * (optionally (single digitSeparator) * digit)∗

/-- The numerals that begin with a digit: digits, and a point, and digits behind it. -/
def numeral : Language Char := digits * optionally (single decimalPoint * optionally digits)

/-- What may come from the point of a numeral on, if no point came before. -/
def fraction (pointBefore : Bool) : Language Char :=
  if pointBefore then 1 else optionally (single decimalPoint * optionally digits)

/-- What a numeral may go on with. -/
def continuation (digitBefore pointBefore : Bool) : Language Char :=
  (if digitBefore then (optionally (single digitSeparator) * digit)∗ else optionally digits) *
    fraction pointBefore

theorem continuation_false_eq (pointBefore : Bool) :
    continuation false pointBefore =
      fraction pointBefore + digit * continuation true pointBefore := by
  simp only [continuation, optionally, digits, Bool.false_eq_true, if_false, if_true]
  rw [add_mul, one_mul, mul_assoc]

private theorem continuation_true_eq (pointBefore : Bool) :
    continuation true pointBefore =
      fraction pointBefore + digit * continuation true pointBefore +
        single digitSeparator * (digit * continuation true pointBefore) := by
  simp only [continuation, if_true]
  conv_lhs => rw [← Language.one_add_self_mul_kstar_eq_kstar]
  simp only [optionally, add_mul, one_mul, mul_assoc, add_assoc]

private theorem fraction_false_eq :
    fraction false = 1 + single decimalPoint * continuation false true := by
  simp [fraction, continuation, optionally]

theorem nil_mem_continuation (digitBefore pointBefore : Bool) :
    [] ∈ continuation digitBefore pointBefore := by
  have hfraction : [] ∈ fraction pointBefore := by
    cases pointBefore
    · rw [fraction_false_eq]
      exact .inl rfl
    · exact rfl
  cases digitBefore
  · rw [continuation_false_eq]
    exact .inl hfraction
  · rw [continuation_true_eq]
    exact .inl (.inl hfraction)

private theorem cons_mem_fraction {pointBefore : Bool} {c : Char} {text : List Char} :
    c :: text ∈ fraction pointBefore ↔
      pointBefore = false ∧ c = decimalPoint ∧ text ∈ continuation false true := by
  cases pointBefore with
  | false =>
    rw [fraction_false_eq, Language.mem_add, cons_mem_single_mul, Language.mem_one]
    simp
  | true => simp [fraction, Language.mem_one]

/-- How a numeral may go on: with a digit, with a separator between two digits, or with a point if
    none came before. -/
theorem cons_mem_continuation {digitBefore pointBefore : Bool} {c : Char} {text : List Char} :
    c :: text ∈ continuation digitBefore pointBefore ↔
      (Text.isDigit c ∧ text ∈ continuation true pointBefore) ∨
      (digitBefore ∧ c = digitSeparator ∧ text ∈ digit * continuation true pointBefore) ∨
      (pointBefore = false ∧ c = decimalPoint ∧ text ∈ continuation false true) := by
  cases digitBefore with
  | false =>
    rw [continuation_false_eq, Language.mem_add, cons_mem_fraction, digit, cons_mem_oneOf_mul]
    simp [or_comm]
  | true =>
    conv_lhs => rw [continuation_true_eq]
    simp only [Language.mem_add, cons_mem_fraction, digit, cons_mem_oneOf_mul, cons_mem_single_mul]
    tauto

theorem isDigit_ne_mark {c : Char} (hdigit : Text.isDigit c) :
    c ≠ digitSeparator ∧ c ≠ decimalPoint := by
  constructor <;> rintro rfl
  · exact absurd hdigit (by rw [(classes_of_mark (.inl rfl)).2.2]; simp)
  · exact absurd hdigit (by rw [(classes_of_mark (.inr rfl)).2.2]; simp)

theorem exists_cons_of_mem_digit_mul {text : List Char} {words : Language Char}
    (h : text ∈ digit * words) : ∃ c rest, text = c :: rest ∧ Text.isDigit c ∧ rest ∈ words := by
  cases text with
  | nil => exact absurd h (nil_notMem_oneOf_mul _ _)
  | cons c rest => exact ⟨c, rest, rfl, cons_mem_oneOf_mul.1 h⟩

/-- Scanning a numeral takes a beginning of the text that is a way to go on. -/
theorem numeralAfter_mem (digitBefore pointBefore : Bool) (text : List Char) :
    numeralAfter digitBefore pointBefore text ∈ continuation digitBefore pointBefore := by
  fun_induction numeralAfter digitBefore pointBefore text with
  | case1 digitBefore pointBefore => exact nil_mem_continuation digitBefore pointBefore
  | case2 digitBefore pointBefore c rest hdigit ih =>
    exact cons_mem_continuation.2 (.inl ⟨hdigit, ih⟩)
  | case3 digitBefore pointBefore c rest hdigit hseparator ih =>
    simp only [Bool.and_eq_true, decide_eq_true_eq] at hseparator
    obtain ⟨⟨hc, hbefore⟩, hbegins⟩ := hseparator
    cases rest with
    | nil => cases hbegins
    | cons next rest =>
      have hnext : Text.isDigit next := hbegins
      refine cons_mem_continuation.2 (.inr (.inl ⟨hbefore, hc, ?_⟩))
      rw [numeralAfter, if_pos hnext] at ih ⊢
      rcases cons_mem_continuation.1 ih with ⟨-, hrest⟩ | ⟨hfalse, -⟩ | ⟨-, hpoint, -⟩
      · exact cons_mem_oneOf_mul.2 ⟨hnext, hrest⟩
      · cases hfalse
      · exact absurd hpoint (isDigit_ne_mark hnext).2
  | case4 digitBefore pointBefore c rest hdigit hseparator hpoint ih =>
    simp only [Bool.and_eq_true, decide_eq_true_eq, Bool.not_eq_true'] at hpoint
    rw [hpoint.2]
    exact cons_mem_continuation.2 (.inr (.inr ⟨rfl, hpoint.1, ih⟩))
  | case5 digitBefore pointBefore => exact nil_mem_continuation digitBefore pointBefore

/-- Scanning a numeral takes the longest beginning of the text that is a way to go on. -/
theorem isPrefix_numeralAfter {digitBefore pointBefore : Bool} {text word : List Char}
    (hword : word ∈ continuation digitBefore pointBefore) (hbeginning : word <+: text) :
    word <+: numeralAfter digitBefore pointBefore text := by
  induction text generalizing digitBefore pointBefore word with
  | nil =>
    rw [List.prefix_nil.1 hbeginning]
    exact List.nil_prefix
  | cons c rest ih =>
    cases word with
    | nil => exact List.nil_prefix
    | cons first word =>
      obtain ⟨rfl, hrest⟩ := List.cons_prefix_cons.1 hbeginning
      rw [numeralAfter]
      rcases cons_mem_continuation.1 hword with
        ⟨hdigit, hword⟩ | ⟨hbefore, hseparator, hword⟩ | ⟨hpoint, hc, hword⟩
      · rw [if_pos hdigit]
        exact List.cons_prefix_cons.2 ⟨rfl, ih hword hrest⟩
      · -- The digit that has to come behind a separator lies in the text, too.
        have hbegins : beginsWithDigit rest := by
          obtain ⟨next, after, rfl, hnext, -⟩ := exists_cons_of_mem_digit_mul hword
          obtain ⟨behind, rfl⟩ := hrest
          exact hnext
        have hfalse : word ∈ continuation false pointBefore := by
          rw [continuation_false_eq]
          exact .inr hword
        have hdigit : Text.isDigit first = false := (classes_of_mark (.inl hseparator)).2.2
        rw [if_neg (by simp [hdigit]), if_pos (by simp [hseparator, hbefore, hbegins])]
        exact List.cons_prefix_cons.2 ⟨rfl, ih hfalse hrest⟩
      · have hdigit : Text.isDigit first = false := (classes_of_mark (.inr hc)).2.2
        have hseparator : first ≠ digitSeparator := by
          rw [hc]
          decide
        rw [if_neg (by simp [hdigit]), if_neg (by simp [hseparator]), if_pos (by simp [hc, hpoint])]
        exact List.cons_prefix_cons.2 ⟨rfl, ih hword hrest⟩

theorem numeral_eq : numeral = digit * continuation true false := by
  simp [numeral, digits, continuation, fraction, mul_assoc]

theorem exists_cons_of_mem_numeral {word : List Char} (h : word ∈ numeral) :
    ∃ c rest, word = c :: rest ∧ Text.isDigit c := by
  rw [numeral_eq] at h
  obtain ⟨c, rest, rfl, hdigit, -⟩ := exists_cons_of_mem_digit_mul h
  exact ⟨c, rest, rfl, hdigit⟩

/-- A row of digits is a numeral. -/
theorem mem_of_isDigit {word : List Char} (hne : word ≠ []) (hdigits : ∀ c ∈ word, Text.isDigit c) :
    word ∈ numeral := by
  have hcontinuation {rest : List Char} (hrest : ∀ c ∈ rest, Text.isDigit c) :
      rest ∈ continuation true false := by
    induction rest with
    | nil => exact nil_mem_continuation true false
    | cons c rest ih =>
      obtain ⟨hc, hrest⟩ := List.forall_mem_cons.1 hrest
      rw [continuation_true_eq]
      exact .inl (.inr (cons_mem_oneOf_mul.2 ⟨hc, ih hrest⟩))
  obtain ⟨c, rest, rfl⟩ := List.exists_cons_of_ne_nil hne
  obtain ⟨hc, hrest⟩ := List.forall_mem_cons.1 hdigits
  rw [numeral_eq]
  exact cons_mem_oneOf_mul.2 ⟨hc, hcontinuation hrest⟩

/-- A text that begins with a digit begins with a numeral, and scanning takes the longest one. -/
theorem longest_numeral {c : Char} (rest : List Char) (hdigit : Text.isDigit c) :
    Longest numeral (c :: numeralAfter true false rest) (c :: rest) := by
  rw [numeral_eq]
  refine ⟨cons_mem_oneOf_mul.2 ⟨hdigit, numeralAfter_mem true false rest⟩,
    (List.prefix_cons_inj c).2 (numeralAfter_isPrefix true false rest), ?_⟩
  intro other hother hbegins
  obtain ⟨first, others, rfl, -, hothers⟩ := exists_cons_of_mem_digit_mul hother
  obtain ⟨rfl, hbehind⟩ := List.cons_prefix_cons.1 hbegins
  exact (List.prefix_cons_inj first).2 (isPrefix_numeralAfter hothers hbehind)

end LetArith.Numeral
