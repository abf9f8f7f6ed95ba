import LetArith.Proofs.Lexeme

namespace LetArith

namespace Text

/-- No interval of one table meets an interval of the other. -/
def disjoint (table others : List CodeRange) : Bool :=
  -- The kernel computes `Nat.blt` at once.
  table.all fun range => others.all fun other =>
    Nat.blt range.last other.first || Nat.blt other.last range.first

theorem inRanges_eq_false_of_disjoint {table others : List CodeRange} {c : Char}
    (hdisjoint : disjoint table others) (hc : inRanges table c) : inRanges others c = false := by
  rw [Bool.eq_false_iff]
  intro hother
  obtain ⟨range, hrange, hcontains⟩ := List.any_eq_true.1 hc
  obtain ⟨other, hmem, hcontains'⟩ := List.any_eq_true.1 hother
  have happart := List.all_eq_true.1 (List.all_eq_true.1 hdisjoint range hrange) other hmem
  simp only [CodeRange.contains, Bool.and_eq_true, Bool.or_eq_true, decide_eq_true_eq, Nat.blt_eq]
    at hcontains hcontains' happart
  omega

theorem isLetter_eq_false_of_isDigit {c : Char} (h : isDigit c) : isLetter c = false :=
  inRanges_eq_false_of_disjoint (by decide +kernel) h

theorem isBlank_eq_false_of_isLetter {c : Char} (h : isLetter c) : isBlank c = false :=
  inRanges_eq_false_of_disjoint (by decide +kernel) h

theorem isBlank_eq_false_of_isDigit {c : Char} (h : isDigit c) : isBlank c = false :=
  inRanges_eq_false_of_disjoint (by decide +kernel) h

theorem isDigit_eq_false_of_isLetter {c : Char} (h : isLetter c) : isDigit c = false := by
  rw [Bool.eq_false_iff]
  intro hdigit
  rw [isLetter_eq_false_of_isDigit hdigit] at h
  cases h

theorem isDigit_eq_false_of_isBlank {c : Char} (h : isBlank c) : isDigit c = false := by
  rw [Bool.eq_false_iff]
  intro hdigit
  rw [isBlank_eq_false_of_isDigit hdigit] at h
  cases h

end Text

/-- The classes to which no sign belongs. -/
theorem Kind.classes_of_ofSign? {c : Char} {kind : Kind} (h : Kind.ofSign? c = some kind) :
    Text.isBlank c = false ∧ Text.isLetter c = false ∧ Text.isDigit c = false := by
  have hsigns : ∀ sign ∈ Kind.signs, Text.isBlank sign.1 = false ∧ Text.isLetter sign.1 = false ∧
      Text.isDigit sign.1 = false := by decide +kernel
  exact hsigns _ (mem_signs_of_ofSign? h)

/-- The classes to which no mark within a numeral belongs. -/
theorem Lexeme.classes_of_mark {c : Char} (h : c = digitSeparator ∨ c = decimalPoint) :
    Text.isBlank c = false ∧ Text.isLetter c = false ∧ Text.isDigit c = false := by
  rcases h with rfl | rfl <;> decide +kernel

end LetArith
