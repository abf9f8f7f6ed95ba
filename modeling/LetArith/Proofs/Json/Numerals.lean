import LetArith.Proofs.Digits
import LetArith.Proofs.Json.Grammar
import LetArith.Proofs.Json.Reading
import LetArith.Proofs.Rounding

namespace LetArith.Json

open Words

theorem digits?_of_mem {text : List Char} (htext : text ∈ Grammar.digits) :
    digits? text = some (Text.digitsValue text) := by
  obtain ⟨hne, hdigits⟩ := Grammar.mem_digits_iff.1 htext
  exact if_pos ⟨hne, List.all_eq_true.2 hdigits⟩

theorem ne_of_isDigit {c mark : Char} (hc : c.isDigit) (hmark : mark.isDigit = false) :
    c ≠ mark := by
  rintro rfl
  rw [hmark] at hc
  cases hc

/-- Digits are neither the mark of an exponent nor a point. -/
theorem unmarked_of_isDigit {c : Char} (hc : c.isDigit) :
    (c != 'e' && c != 'E') = true ∧ (c != '.') = true := by
  have hsmall : c ≠ 'e' := ne_of_isDigit hc rfl
  have hcapital : c ≠ 'E' := ne_of_isDigit hc rfl
  have hpoint : c ≠ '.' := ne_of_isDigit hc rfl
  simp [hsmall, hcapital, hpoint]

/-- The sign of a number. -/
def sign (negative : Bool) : List Char := if negative then ['-'] else []

theorem sign_append_mem_number (negative : Bool) {whole fraction power : List Char}
    (hwhole : whole ∈ Grammar.whole) (hfraction : fraction ∈ optionally Grammar.fraction)
    (hpower : power ∈ optionally Grammar.power) :
    sign negative ++ (whole ++ (fraction ++ power)) ∈ Grammar.number := by
  have hsign : sign negative ∈ optionally (single '-') := by
    rw [mem_optionally_iff]
    cases negative with
    | false => exact .inl rfl
    | true => exact .inr (singleton_mem_single '-')
  exact Language.append_mem_mul hsign
    (Language.append_mem_mul hwhole (Language.append_mem_mul hfraction hpower))

/-- A number with a point or an exponent, as it is written behind its sign. -/
structure RealText where
  whole : List Char
  /-- The digits behind the point, and none if there is no point. -/
  behind : List Char
  /-- The exponent with its mark, or nothing. -/
  power : List Char
  exponent : Int
  whole_mem : whole ∈ Grammar.whole
  isDigit_behind : ∀ c ∈ behind, c.isDigit
  power_mem : power ∈ optionally Grammar.power
  ne_nil : behind ≠ [] ∨ power ≠ []
  exponent_eq : power? power = some exponent

namespace RealText

/-- The point and the digits behind it. -/
def fraction (real : RealText) : List Char := if real.behind = [] then [] else '.' :: real.behind

/-- The characters of the number. -/
def text (real : RealText) : List Char := real.whole ++ real.fraction ++ real.power

/-- The rank of the magnitude that the number denotes. -/
def rank (real : RealText) : Nat :=
  Binary64.decimalRank (Text.digitsValue (real.whole ++ real.behind))
    (real.exponent - real.behind.length)

private theorem fraction_mem (real : RealText) : real.fraction ∈ optionally Grammar.fraction := by
  rw [mem_optionally_iff, fraction]
  split
  · exact .inl rfl
  · rename_i hne
    exact .inr (Grammar.mem_fraction_iff.2
      ⟨real.behind, Grammar.mem_digits_iff.2 ⟨hne, real.isDigit_behind⟩, rfl⟩)

theorem fraction?_fraction (real : RealText) : fraction? real.fraction = some real.behind := by
  rw [fraction]
  split
  · rename_i hnil
    rw [hnil]
    rfl
  · rename_i hne
    have hdigits := digits?_of_mem (Grammar.mem_digits_iff.2 ⟨hne, real.isDigit_behind⟩)
    rw [fraction?, hdigits]
    rfl

private theorem mem_number (real : RealText) (negative : Bool) :
    sign negative ++ real.text ∈ Grammar.number := by
  rw [text, List.append_assoc]
  exact sign_append_mem_number negative real.whole_mem real.fraction_mem real.power_mem

/-- The digits before the point end there, and the number without its exponent at the mark of it. -/
theorem takeWhile_text (real : RealText) :
    real.text.takeWhile (fun c => c != 'e' && c != 'E') = real.whole ++ real.fraction ∧
      (real.whole ++ real.fraction).takeWhile (· != '.') = real.whole := by
  obtain ⟨hdigits, -⟩ := Grammar.mem_whole_iff.1 real.whole_mem
  have hwhole := (Grammar.mem_digits_iff.1 hdigits).2
  constructor
  · have hfraction : ∀ c ∈ real.fraction, (c != 'e' && c != 'E') = true := by
      intro c hc
      rw [fraction] at hc
      split at hc
      · cases hc
      · rcases List.mem_cons.1 hc with rfl | hc
        · rfl
        · exact (unmarked_of_isDigit (real.isDigit_behind c hc)).1
    have hpower : real.power.takeWhile (fun c => c != 'e' && c != 'E') = [] := by
      rcases mem_optionally_iff.1 real.power_mem with hnil | hpower
      · rw [hnil, List.takeWhile_nil]
      · obtain ⟨mark, behind, heq, rfl | rfl⟩ := Grammar.exists_cons_of_mem_power hpower <;>
          simp [heq]
    have hmantissa := List.forall_mem_append.2
      ⟨fun c hc => (unmarked_of_isDigit (hwhole c hc)).1, hfraction⟩
    rw [text, List.takeWhile_append_of_pos hmantissa, hpower, List.append_nil]
  · have hpoint : ∀ c ∈ real.whole, (c != '.') = true :=
      fun c hc => (unmarked_of_isDigit (hwhole c hc)).2
    have hfraction : real.fraction.takeWhile (· != '.') = [] := by
      rw [fraction]
      split <;> rfl
    rw [List.takeWhile_append_of_pos hpoint, hfraction, List.append_nil]

theorem magnitude?_text (real : RealText) (negative : Bool) :
    magnitude? negative real.text = some (.real (.ofRank negative real.rank)) := by
  obtain ⟨hmantissa, hwhole⟩ := real.takeWhile_text
  obtain ⟨hdigits, hhead⟩ := Grammar.mem_whole_iff.1 real.whole_mem
  have hleading : ¬(real.whole.head? = some '0' ∧ real.whole ≠ ['0']) :=
    fun ⟨hzero, hne⟩ => hne (hhead hzero)
  have hparts : ¬(real.behind = [] ∧ real.power = []) := by
    rintro ⟨hbehind, hpower⟩
    exact real.ne_nil.elim (absurd hbehind) (absurd hpower)
  have hpower : real.text.drop (real.whole ++ real.fraction).length = real.power := List.drop_left
  have hfraction : (real.whole ++ real.fraction).drop real.whole.length = real.fraction :=
    List.drop_left
  simp only [magnitude?, hmantissa, hwhole, hpower, hfraction, digits?_of_mem hdigits,
    real.fraction?_fraction, real.exponent_eq, Option.bind_eq_bind, Option.bind_some,
    if_neg hleading, if_neg hparts]
  rfl

end RealText

/-- The digits of a natural number are the digits before the point of one. -/
theorem toDigits_mem_whole (n : Nat) : Nat.toDigits 10 n ∈ Grammar.whole := by
  refine Grammar.mem_whole_iff.2 ⟨Grammar.mem_digits_iff.2 ⟨?_, Text.isDigit_toDigits n⟩, ?_⟩
  · exact Nat.toDigits_ne_nil
  · intro hhead
    by_cases hn : n = 0
    · rw [hn]
      rfl
    · exact absurd hhead (Text.head?_toDigits_ne_zero (Nat.pos_of_ne_zero hn))

theorem magnitude?_toDigits (negative : Bool) (n : Nat) :
    magnitude? negative (Nat.toDigits 10 n) =
      some (.integer (if negative then -(n : Int) else n)) := by
  obtain ⟨hdigits, hhead⟩ := Grammar.mem_whole_iff.1 (toDigits_mem_whole n)
  have hleading : ¬((Nat.toDigits 10 n).head? = some '0' ∧ Nat.toDigits 10 n ≠ ['0']) :=
    fun ⟨hzero, hne⟩ => hne (hhead hzero)
  have htaken (p : Char → Bool) (hp : ∀ c, c.isDigit → p c) :
      (Nat.toDigits 10 n).takeWhile p = Nat.toDigits 10 n :=
    List.takeWhile_eq_self_iff.2 fun c hc => hp c (Text.isDigit_toDigits n c hc)
  have hmantissa := htaken (fun c => c != 'e' && c != 'E') fun c hc => (unmarked_of_isDigit hc).1
  have hwhole := htaken (· != '.') fun c hc => (unmarked_of_isDigit hc).2
  simp only [magnitude?, hmantissa, hwhole, List.drop_length, digits?_of_mem hdigits, fraction?,
    power?, Option.bind_eq_bind, Option.bind_some, if_neg hleading, and_self, if_true,
    Text.digitsValue_toDigits]

/-- A row that begins with a digit is no word, and it is read as a magnitude, with a sign or
    without. -/
theorem word?_sign_append (negative : Bool) {c : Char} (hc : c.isDigit) (digits : List Char) :
    word? (sign negative ++ c :: digits) = magnitude? negative (c :: digits) := by
  have hne {mark : Char} (hmark : mark.isDigit = false) : c ≠ mark := ne_of_isDigit hc hmark
  have hword : words.lookup (sign negative ++ c :: digits) = none := by
    rw [List.lookup_eq_none_iff]
    cases negative <;> simp [sign, words, infinity, hne]
  rw [word?, hword, Option.map_none, Option.none_or]
  cases negative with
  | false => simp [sign, number?, hne]
  | true => rfl

theorem exists_cons_of_mem_whole {text : List Char} (htext : text ∈ Grammar.whole) :
    ∃ c digits, text = c :: digits ∧ c.isDigit := by
  obtain ⟨hdigits, -⟩ := Grammar.mem_whole_iff.1 htext
  obtain ⟨hne, hdigits⟩ := Grammar.mem_digits_iff.1 hdigits
  obtain ⟨c, digits, rfl⟩ := List.exists_cons_of_ne_nil hne
  exact ⟨c, digits, rfl, hdigits c List.mem_cons_self⟩

theorem isBare_of_numeric {c : Char} (hc : Grammar.Numeric c) : isBare c := by
  rcases hc with hc | hc
  · have hne {mark : Char} (hmark : mark.isDigit = false) : c ≠ mark := ne_of_isDigit hc hmark
    simp [isBare, isSpace, isMark, hne]
  · have hmarks : ∀ c ∈ ['-', '+', '.', 'e', 'E'], isBare c := List.all_eq_true.1 rfl
    exact hmarks c hc

/-- A number of the grammar, with a sign or without, denotes what its magnitude is read as. -/
theorem wordDenotes_of_mem_number {negative : Bool} {c : Char} {digits : List Char}
    {document : Json} (hmem : sign negative ++ c :: digits ∈ Grammar.number)
    (hc : c.isDigit) (hmagnitude : magnitude? negative (c :: digits) = some document) :
    WordDenotes (sign negative ++ c :: digits) document := by
  refine ⟨?_, ?_, ?_⟩
  · exact List.append_ne_nil_of_right_ne_nil _ (List.cons_ne_nil c digits)
  · exact fun c hc => isBare_of_numeric (Grammar.within_number _ hmem c hc)
  · rw [word?_sign_append negative hc, hmagnitude]

private theorem toList_toString_int (n : Int) :
    (toString n).toList = sign (decide (n < 0)) ++ Nat.toDigits 10 n.natAbs := by
  rw [Int.toString_eq_repr, Int.repr_eq_if]
  split
  · have hnonneg : ¬n < 0 := by omega
    have habs : n.toNat = n.natAbs := by omega
    simp [sign, hnonneg, habs, Nat.toList_repr]
  · have hnegative : n < 0 := by omega
    have habs : (-n).toNat = n.natAbs := by omega
    simp [sign, hnegative, habs, Nat.toList_repr]

theorem toString_mem_number (n : Int) : (toString n).toList ∈ Grammar.number := by
  have hempty {words : Language Char} : [] ∈ optionally words := mem_optionally_iff.2 (.inl rfl)
  have hmem := sign_append_mem_number (decide (n < 0)) (toDigits_mem_whole n.natAbs) hempty hempty
  rwa [List.append_nil, List.append_nil, ← toList_toString_int] at hmem

/-- The text of an integer denotes the integer. -/
theorem wordDenotes_toString (n : Int) : WordDenotes (toString n).toList (.integer n) := by
  obtain ⟨c, digits, hdigits, hc⟩ := exists_cons_of_mem_whole (toDigits_mem_whole n.natAbs)
  have hmem := toString_mem_number n
  have hmagnitude := magnitude?_toDigits (decide (n < 0)) n.natAbs
  rw [toList_toString_int, hdigits] at hmem ⊢
  rw [hdigits] at hmagnitude
  have hvalue : (if decide (n < 0) then -(n.natAbs : Int) else n.natAbs) = n := by
    simp only [decide_eq_true_eq]
    split <;> omega
  rw [hvalue] at hmagnitude
  exact wordDenotes_of_mem_number hmem hc hmagnitude

/-- A row of digits with zeros before them and a mark denotes an exponent. -/
theorem power?_exponentText (width : Nat) (exponent : Int) :
    power? ('e' :: Binary64.exponentText width exponent) = some exponent ∧
      'e' :: Binary64.exponentText width exponent ∈ Grammar.power := by
  have hzeros := Text.isDigit_zeros (width - (Nat.toDigits 10 exponent.natAbs).length)
  have hmem : List.replicate (width - (Nat.toDigits 10 exponent.natAbs).length) '0' ++
      Nat.toDigits 10 exponent.natAbs ∈ Grammar.digits := by
    refine Grammar.mem_digits_iff.2 ⟨?_, List.forall_mem_append.2 ⟨hzeros, ?_⟩⟩
    · exact List.append_ne_nil_of_right_ne_nil _ Nat.toDigits_ne_nil
    · exact Text.isDigit_toDigits _
  have hvalue := digits?_of_mem hmem
  rw [Text.digitsValue_zeros_append (Text.isDigit_toDigits _), Text.digitsValue_toDigits] at hvalue
  constructor
  · rw [power?, Binary64.exponentText]
    split
    · have habs : -(exponent.natAbs : Int) = exponent := by omega
      rw [List.cons_append, exponent?, hvalue, Option.map_some, habs]
    · have habs : Int.ofNat exponent.natAbs = exponent := by
        change (exponent.natAbs : Int) = exponent
        omega
      rw [List.cons_append, exponent?, hvalue, Option.map_some, habs]
  · rw [Grammar.power, cons_mem_oneOf_mul, Binary64.exponentText, List.cons_append]
    refine ⟨.inl rfl, Language.append_mem_mul (a := [_]) ?_ hmem⟩
    refine mem_optionally_iff.2 (.inr ⟨_, ?_, rfl⟩)
    split
    · exact .inr rfl
    · exact .inl rfl

section Positional

variable {digits : List Char} (whole : Nat)

/-- Digits with zeros behind them, if it takes them to reach the point. -/
def padded (digits : List Char) : List Char :=
  digits ++ List.replicate (whole - digits.length) '0'

/-- What is written of digits behind the point. -/
def behindPoint (digits : List Char) : List Char :=
  if (padded whole digits).length ≤ whole then ['0'] else (padded whole digits).drop whole

private theorem length_padded (digits : List Char) :
    (padded whole digits).length = max digits.length whole := by
  rw [padded, List.length_append, List.length_replicate]
  omega

private theorem isDigit_padded (hdigits : ∀ c ∈ digits, c.isDigit) :
    ∀ c ∈ padded whole digits, c.isDigit :=
  List.forall_mem_append.2 ⟨hdigits, Text.isDigit_zeros _⟩

private theorem isDigit_behindPoint (hdigits : ∀ c ∈ digits, c.isDigit) :
    ∀ c ∈ behindPoint whole digits, c.isDigit := by
  rw [behindPoint]
  split
  · exact Text.isDigit_zeros 1
  · exact fun c hc => isDigit_padded whole hdigits c (List.mem_of_mem_drop hc)

private theorem behindPoint_ne_nil (digits : List Char) : behindPoint whole digits ≠ [] := by
  rw [behindPoint]
  split
  · exact List.cons_ne_nil _ _
  · rw [ne_eq, List.drop_eq_nil_iff]
    assumption

/-- Digits before the point begin with a zero only if it is the only one. -/
theorem take_padded_mem_whole {whole : Nat} (hdigits : ∀ c ∈ digits, c.isDigit) (hne : digits ≠ [])
    (hwhole : 0 < whole) (hhead : digits.head? = some '0' → whole = 1) :
    (padded whole digits).take whole ∈ Grammar.whole := by
  have hlength : ((padded whole digits).take whole).length = whole := by
    rw [List.length_take, length_padded]
    omega
  refine Grammar.mem_whole_iff.2 ⟨Grammar.mem_digits_iff.2 ⟨?_, ?_⟩, ?_⟩
  · rintro hnil
    rw [hnil, List.length_nil] at hlength
    omega
  · exact fun c hc => isDigit_padded whole hdigits c (List.mem_of_mem_take hc)
  · intro hzero
    rw [List.head?_take, if_neg (by omega), padded, List.head?_append_of_ne_nil _ hne] at hzero
    obtain ⟨others, hothers⟩ := List.head?_eq_some_iff.1 hzero
    simp [padded, hothers, hhead hzero]

/-- A point among or behind digits makes a tenth of them for each digit that comes behind it. -/
theorem decimalRank_padded (hdigits : ∀ c ∈ digits, c.isDigit) :
    Binary64.decimalRank
        (Text.digitsValue ((padded whole digits).take whole ++ behindPoint whole digits))
        (0 - (behindPoint whole digits).length) =
      Binary64.decimalRank (Text.digitsValue digits) (whole - digits.length) := by
  have hlength := length_padded whole digits
  by_cases hlong : (padded whole digits).length ≤ whole
  · -- The zero behind the point is one more than those before it.
    have hbehind : behindPoint whole digits = List.replicate 1 '0' := if_pos hlong
    have hzeros : (padded whole digits).take whole ++ List.replicate 1 '0' =
        digits ++ List.replicate (whole - digits.length + 1) '0' := by
      rw [List.take_of_length_le hlong, padded, List.append_assoc, List.replicate_append_replicate]
    rw [hbehind, hzeros, Text.digitsValue_append_zeros hdigits, Binary64.decimalRank_mul_pow]
    congr 1
    rw [List.length_replicate]
    omega
  · have hbehind : behindPoint whole digits = (padded whole digits).drop whole := if_neg hlong
    have hshort : whole - digits.length = 0 := by omega
    have hpadded : padded whole digits = digits := by simp [padded, hshort]
    rw [hbehind, List.take_append_drop, hpadded, List.length_drop]
    congr 1
    omega

end Positional

namespace RealText

/-- Digits with a point among or behind them. -/
theorem exists_positional {digits : List Char} (hdigits : ∀ c ∈ digits, c.isDigit)
    (hne : digits ≠ []) {whole : Nat} (hwhole : 0 < whole)
    (hhead : digits.head? = some '0' → whole = 1) :
    ∃ real : RealText, real.text = Binary64.positional digits whole ∧
      real.rank = Binary64.decimalRank (Text.digitsValue digits) (whole - digits.length) := by
  have hbehind := behindPoint_ne_nil whole digits
  let real : RealText := ⟨(padded whole digits).take whole, behindPoint whole digits, [], 0,
    take_padded_mem_whole hdigits hne hwhole hhead, isDigit_behindPoint whole hdigits,
    mem_optionally_iff.2 (.inl rfl), .inl hbehind, rfl⟩
  have hfraction : real.fraction = '.' :: behindPoint whole digits := if_neg hbehind
  refine ⟨real, ?_, ?_⟩
  · rw [text, hfraction, List.append_nil]
    rfl
  · exact decimalRank_padded whole hdigits

/-- Digits with a point behind the first one, if more follow, and an exponent. -/
theorem exists_scientific {digits : List Char} (hdigits : ∀ c ∈ digits, c.isDigit)
    (hne : digits ≠ []) (hhead : digits.head? ≠ some '0') (width : Nat) (exponent : Int) :
    ∃ real : RealText,
      real.text = Binary64.pointed digits ++ 'e' :: Binary64.exponentText width exponent ∧
      real.rank =
        Binary64.decimalRank (Text.digitsValue digits) (exponent + 1 - digits.length) := by
  obtain ⟨first, others, rfl⟩ := List.exists_cons_of_ne_nil hne
  obtain ⟨hfirst, hothers⟩ := List.forall_mem_cons.1 hdigits
  obtain ⟨hpower, hmem⟩ := power?_exponentText width exponent
  have hwhole : [first] ∈ Grammar.whole := by
    refine Grammar.mem_whole_iff.2 ⟨Grammar.mem_digits_iff.2 ⟨List.cons_ne_nil _ _, ?_⟩, ?_⟩
    · exact List.forall_mem_singleton.2 hfirst
    · exact fun hzero => absurd hzero hhead
  let real : RealText := ⟨[first], others, 'e' :: Binary64.exponentText width exponent, exponent,
    hwhole, hothers, mem_optionally_iff.2 (.inr hmem), .inr (List.cons_ne_nil _ _), hpower⟩
  refine ⟨real, ?_, ?_⟩
  · cases others with
    | nil => rfl
    | cons second others => rfl
  · have hexponent : exponent + 1 - ((first :: others).length : Int) = exponent - others.length := by
      rw [List.length_cons]
      omega
    rw [hexponent]
    rfl

/-- A positive decimal as text is a number that denotes what the decimal is rounded to. -/
theorem exists_decimal (format : Binary64.Format) {d : Binary64.Decimal} (hd : 0 < d.digits) :
    ∃ real : RealText, real.text = d.text format ∧
      real.rank = Binary64.decimalRank d.digits d.exponent := by
  let written := Nat.toDigits 10 d.digits
  let digits := Binary64.significant written
  let exponent := d.exponent + written.length - 1
  have hwritten : ∀ c ∈ written, c.isDigit := Text.isDigit_toDigits d.digits
  have hwrittenHead : written.head? ≠ some '0' := Text.head?_toDigits_ne_zero hd
  have hdigits : ∀ c ∈ digits, c.isDigit := Binary64.isDigit_significant hwritten
  have hsame : digits.head? = written.head? := Binary64.head?_significant hwrittenHead
  have hhead : digits.head? ≠ some '0' := hsame ▸ hwrittenHead
  have hne : digits ≠ [] := by
    intro hnil
    rw [hnil] at hsame
    exact Nat.toDigits_ne_nil (List.head?_eq_none_iff.1 hsame.symm)
  have hrank : Binary64.decimalRank d.digits d.exponent =
      Binary64.decimalRank (Text.digitsValue digits) (exponent + 1 - digits.length) := by
    have hvalue := Binary64.digitsValue_significant hwritten
    have hlength : digits.length ≤ written.length := by
      have happend := congrArg List.length (Binary64.significant_append_zeros written)
      rw [List.length_append] at happend
      exact Nat.le.intro happend
    rw [Text.digitsValue_toDigits] at hvalue
    conv_lhs => rw [hvalue]
    rw [Binary64.decimalRank_mul_pow]
    congr 1
    change d.exponent + ((written.length - digits.length : Nat) : Int) =
      d.exponent + written.length - 1 + 1 - digits.length
    omega
  have htext : d.text format =
      if format.leastPositional ≤ exponent && exponent < format.leastScientific then
        if 0 ≤ exponent then Binary64.positional digits (exponent.toNat + 1)
        else Binary64.positional (List.replicate (-exponent).toNat '0' ++ digits) 1
      else Binary64.pointed digits ++ 'e' :: Binary64.exponentText format.exponentWidth exponent :=
    rfl
  rw [htext, hrank]
  split
  · split
    · have hwhole : exponent + 1 = (exponent.toNat + 1 : Nat) := by omega
      rw [hwhole]
      exact exists_positional hdigits hne (Nat.succ_pos _) (fun hzero => absurd hzero hhead)
    · have hzeros := Text.isDigit_zeros (-exponent).toNat
      have hpadded := List.forall_mem_append.2 ⟨hzeros, hdigits⟩
      have hpaddedNe := List.append_ne_nil_of_right_ne_nil
        (List.replicate (-exponent).toNat '0') hne
      obtain ⟨real, hreal, hrank⟩ :=
        exists_positional hpadded hpaddedNe Nat.one_pos (fun _ => rfl)
      refine ⟨real, hreal, ?_⟩
      rw [hrank, Text.digitsValue_zeros_append hdigits, List.length_append, List.length_replicate]
      congr 1
      omega
  · exact exists_scientific hdigits hne hhead format.exponentWidth exponent

/-- A finite number as text is a number of the grammar that denotes it. -/
theorem exists_finite (format : Binary64.Format) (negative : Bool)
    (rank : Fin Binary64.finiteCount) :
    ∃ real : RealText,
      ((Binary64.finite negative rank).text format).toList = sign negative ++ real.text ∧
      real.rank = rank := by
  have hsign : (if negative then "-" else "").toList = sign negative := by
    cases negative <;> rfl
  by_cases hzero : rank.val = 0
  · have hdigits : ∀ c ∈ ['0'], c.isDigit := List.forall_mem_singleton.2 rfl
    obtain ⟨real, hreal, hrank⟩ :=
      exists_positional hdigits (List.cons_ne_nil _ _) Nat.one_pos (fun _ => rfl)
    refine ⟨real, ?_, ?_⟩
    · rw [Binary64.text, String.toList_append, hsign, if_pos hzero, hreal]
      rfl
    · rw [hrank, hzero]
      exact Binary64.decimalRank_zero _
  · have hpositive := Binary64.digits_shortest_pos (Nat.pos_of_ne_zero hzero)
    obtain ⟨real, hreal, hrank⟩ := exists_decimal format hpositive
    refine ⟨real, ?_, ?_⟩
    · rw [Binary64.text, String.toList_append, hsign, if_neg hzero, String.toList_ofList, hreal]
    · rw [hrank, Binary64.decimalRank_shortest]

theorem wordDenotes (real : RealText) (negative : Bool) :
    WordDenotes (sign negative ++ real.text) (.real (.ofRank negative real.rank)) := by
  obtain ⟨c, digits, hwhole, hc⟩ := exists_cons_of_mem_whole real.whole_mem
  have hmem := real.mem_number negative
  have hmagnitude := real.magnitude?_text negative
  have htext : real.text = c :: (digits ++ real.fraction ++ real.power) := by
    rw [text, hwhole, List.cons_append, List.cons_append]
  rw [htext] at hmem hmagnitude ⊢
  exact wordDenotes_of_mem_number hmem hc hmagnitude

end RealText

/-- The text of a finite real is a number of the grammar. -/
theorem text_mem_number (format : Binary64.Format) (negative : Bool)
    (rank : Fin Binary64.finiteCount) :
    ((Binary64.finite negative rank).text format).toList ∈ Grammar.number := by
  obtain ⟨real, htext, -⟩ := RealText.exists_finite format negative rank
  rw [htext]
  exact real.mem_number negative

/-- The text of a finite real denotes the real, in whatever format. -/
theorem wordDenotes_finite (format : Binary64.Format) (negative : Bool)
    (rank : Fin Binary64.finiteCount) :
    WordDenotes ((Binary64.finite negative rank).text format).toList
      (.real (.finite negative rank)) := by
  obtain ⟨real, htext, hrank⟩ := RealText.exists_finite format negative rank
  have hdenotes := real.wordDenotes negative
  have hfinite : Binary64.ofRank negative real.rank = .finite negative rank := by
    rw [hrank, Binary64.ofRank, dif_pos rank.isLt]
  rwa [htext, ← hfinite]

/-- The text of a real denotes the real. -/
theorem wordDenotes_text (x : Binary64) :
    WordDenotes (x.text Binary64.documentFormat).toList (.real x) := by
  cases x with
  | finite negative rank => exact wordDenotes_finite _ negative rank
  | infinite negative =>
    cases negative <;> exact ⟨List.cons_ne_nil _ _, List.all_eq_true.1 rfl, rfl⟩
  | nan => exact ⟨List.cons_ne_nil _ _, List.all_eq_true.1 rfl, rfl⟩

end LetArith.Json
