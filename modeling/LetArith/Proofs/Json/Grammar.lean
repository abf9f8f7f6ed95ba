import LetArith.Proofs.Json.Composed
import LetArith.Proofs.Words

namespace LetArith.Json

open scoped Computability
open Words

namespace Grammar

/-- One digit or more. -/
def digits : Language Char := oneOf (fun c => c.isDigit) * (oneOf fun c => c.isDigit)∗

/-- The digits before the point of a number. They begin with a zero only if it is the only one. -/
def whole : Language Char :=
  single '0' + oneOf (fun c => c.isDigit ∧ c ≠ '0') * (oneOf fun c => c.isDigit)∗

/-- The point of a number and the digits behind it. -/
def fraction : Language Char := single '.' * digits

/-- The exponent of a number and its mark. -/
def power : Language Char :=
  oneOf (fun c => c = 'e' ∨ c = 'E') * (optionally (oneOf fun c => c = '+' ∨ c = '-') * digits)

/-- Numbers. -/
def number : Language Char :=
  optionally (single '-') * (whole * (optionally fraction * optionally power))

/-- Numbers and the three words. -/
def word : Language Char := number + {"true".toList} + {"false".toList} + {"null".toList}

/-- A hexadecimal digit. -/
def hexDigit : Language Char :=
  oneOf fun c => c.isDigit ∨ ('a' ≤ c ∧ c ≤ 'f') ∨ 'A' ≤ c ∧ c ≤ 'F'

/-- What may stand behind a backslash. -/
def escaped : Language Char :=
  oneOf (· ∈ ['"', '\\', '/', 'b', 'f', 'n', 'r', 't']) +
    single 'u' * (hexDigit * (hexDigit * (hexDigit * hexDigit)))

/-- A character of a quoted text: any character that is no control character, but quotation marks
    and backslashes, or an escape. -/
def character : Language Char :=
  oneOf (fun c => 0x20 ≤ c.toNat ∧ c ≠ '"' ∧ c ≠ '\\') + single '\\' * escaped

/-- Quoted texts. -/
def quote : Language Char := single '"' * (character∗ * single '"')

end Grammar

/-- The texts of the JSON grammar (RFC 8259): those that are composed of the words and the quoted texts
    of the grammar, whatever these are taken to denote. -/
def grammar : Language Char :=
  {text | ∃ document, Composed (fun text _ => text ∈ Grammar.word)
    (fun text _ => text ∈ Grammar.quote) text document}

namespace Grammar

theorem mem_digits_iff {text : List Char} :
    text ∈ digits ↔ text ≠ [] ∧ ∀ c ∈ text, c.isDigit := by
  cases text with
  | nil => simpa [digits] using nil_notMem_oneOf_mul _ _
  | cons c text => simp [digits, cons_mem_oneOf_mul, mem_kstar_oneOf_iff]

theorem mem_whole_iff {text : List Char} :
    text ∈ whole ↔ text ∈ digits ∧ (text.head? = some '0' → text = ['0']) := by
  rw [whole, Language.mem_add, mem_digits_iff]
  cases text with
  | nil =>
    have hzero : [] ∉ single '0' := by
      rintro ⟨_, _, h⟩
      cases h
    simp [hzero, nil_notMem_oneOf_mul]
  | cons c text =>
    rw [cons_mem_oneOf_mul, mem_kstar_oneOf_iff]
    constructor
    · rintro (⟨_, rfl, h⟩ | ⟨⟨hc, hzero⟩, htext⟩)
      · obtain ⟨rfl, rfl⟩ := List.cons.inj h
        simp
      · simpa [hc, hzero] using htext
    · rintro ⟨⟨-, hdigits⟩, hhead⟩
      by_cases hzero : c = '0'
      · subst hzero
        exact .inl ⟨'0', rfl, hhead rfl⟩
      · obtain ⟨hc, htext⟩ := List.forall_mem_cons.1 hdigits
        exact .inr ⟨⟨hc, hzero⟩, htext⟩

theorem mem_fraction_iff {text : List Char} :
    text ∈ fraction ↔ ∃ behind ∈ digits, text = '.' :: behind := by
  cases text with
  | nil => simp [fraction, single, nil_notMem_oneOf_mul]
  | cons c text =>
    rw [fraction, cons_mem_single_mul]
    constructor
    · rintro ⟨rfl, htext⟩
      exact ⟨text, htext, rfl⟩
    · rintro ⟨behind, hbehind, h⟩
      obtain ⟨rfl, rfl⟩ := List.cons.inj h
      exact ⟨rfl, hbehind⟩

theorem exists_cons_of_mem_power {text : List Char} (htext : text ∈ power) :
    ∃ mark behind, text = mark :: behind ∧ (mark = 'e' ∨ mark = 'E') := by
  cases text with
  | nil => exact absurd htext (nil_notMem_oneOf_mul _ _)
  | cons mark behind => exact ⟨mark, behind, rfl, (cons_mem_oneOf_mul.1 htext).1⟩

/-- The characters that numbers are made of. -/
def Numeric (c : Char) : Prop := c.isDigit ∨ c ∈ ['-', '+', '.', 'e', 'E']

private theorem within_digits : Within Numeric digits :=
  .mul (.oneOf fun _ => .inl) (.kstar (.oneOf fun _ => .inl))

private theorem within_power : Within Numeric power := by
  refine .mul (.oneOf ?mark) (.mul (.optionally (.oneOf ?sign)) within_digits)
  case mark => rintro c (rfl | rfl) <;> exact .inr (by decide)
  case sign => rintro c (rfl | rfl) <;> exact .inr (by decide)

private theorem within_whole : Within Numeric whole := by
  refine .add (.oneOf ?zero) (.mul (.oneOf fun _ hc => .inl hc.1) (.kstar (.oneOf fun _ => .inl)))
  rintro c rfl
  exact .inl rfl

theorem within_number : Within Numeric number := by
  have hsign : Within Numeric (single '-') := by
    refine .oneOf ?_
    rintro c rfl
    exact .inr (by decide)
  have hfraction : Within Numeric fraction := by
    refine .mul (.oneOf ?_) within_digits
    rintro c rfl
    exact .inr (by decide)
  exact .mul (.optionally hsign)
    (.mul within_whole (.mul (.optionally hfraction) (.optionally within_power)))

end Grammar

end LetArith.Json
