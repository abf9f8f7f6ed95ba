import LetArith.Token.Lexeme

namespace LetArith

theorem Kind.mem_signs_of_ofSign? {c : Char} {kind : Kind} (h : Kind.ofSign? c = some kind) :
    (c, kind) ∈ Kind.signs := by
  obtain ⟨before, after, hsigns, -⟩ := List.lookup_eq_some_iff.1 h
  simp [hsigns]

theorem Kind.ofWord_eq (word : String) :
    Kind.ofWord word = if word = "let" then .letKeyword else .identifier := by
  unfold ofWord keywords
  by_cases h : word = "let"
  · simp [h]
  · simp [List.lookup_cons, beq_eq_false_iff_ne.2 h, h]

namespace Lexeme

/-- What the lexeme of a text is, by the first character of the text. -/
inductive Leads : List Char → Lexeme → Prop
  | sign {c : Char} {kind : Kind} (rest : List Char) (hsign : Kind.ofSign? c = some kind) :
      Leads (c :: rest) ⟨kind, [c]⟩
  | word {c : Char} (rest : List Char) (hsign : Kind.ofSign? c = none)
      (hletter : Text.isLetter c) :
      Leads (c :: rest)
        ⟨Kind.ofWord (String.ofList (c :: rest.takeWhile Text.isLetter)),
          c :: rest.takeWhile Text.isLetter⟩
  | number {c : Char} (rest : List Char) (hsign : Kind.ofSign? c = none)
      (hletter : ¬ Text.isLetter c) (hdigit : Text.isDigit c) :
      Leads (c :: rest) ⟨.number, c :: numeralAfter true false rest⟩
  | invalid {c : Char} (rest : List Char) (hsign : Kind.ofSign? c = none)
      (hletter : ¬ Text.isLetter c) (hdigit : ¬ Text.isDigit c) :
      Leads (c :: rest) ⟨.invalid, [c]⟩

theorem leads_of_first? {text : List Char} {lexeme : Lexeme} (h : first? text = some lexeme) :
    Leads text lexeme := by
  cases text with
  | nil => simp [first?] at h
  | cons c rest =>
    rw [first?] at h
    cases hsign : Kind.ofSign? c with
    | some kind =>
      simp only [hsign, Option.some.injEq] at h
      rw [← h]
      exact .sign rest hsign
    | none =>
      simp only [hsign] at h
      by_cases hletter : Text.isLetter c
      · simp only [hletter, if_true, Option.some.injEq, List.takeWhile_cons] at h
        rw [← h]
        exact .word rest hsign hletter
      · rw [if_neg hletter] at h
        by_cases hdigit : Text.isDigit c
        · simp only [hdigit, if_true, Option.some.injEq, numeral, numeralAfter] at h
          rw [← h]
          exact .number rest hsign hletter hdigit
        · rw [if_neg hdigit, Option.some.injEq] at h
          rw [← h]
          exact .invalid rest hsign hletter hdigit

theorem first?_eq_none_iff {text : List Char} : first? text = none ↔ text = [] := by
  cases text with
  | nil => simp [first?]
  | cons c rest =>
    rw [first?]
    split <;> try split <;> try split
    all_goals simp

/-- The kinds that a lexeme can have. -/
def kinds : List Kind :=
  [.assign, .plus, .minus, .times, .divide, .letKeyword, .identifier, .number, .invalid]

theorem kind_mem_kinds {text : List Char} {lexeme : Lexeme} (h : first? text = some lexeme) :
    lexeme.kind ∈ kinds := by
  cases leads_of_first? h with
  | sign rest hsign =>
    have hmem := Kind.mem_signs_of_ofSign? hsign
    simp only [Kind.signs, List.mem_cons, Prod.mk.injEq, List.not_mem_nil, or_false] at hmem
    rcases hmem with ⟨-, rfl⟩ | ⟨-, rfl⟩ | ⟨-, rfl⟩ | ⟨-, rfl⟩ | ⟨-, rfl⟩ <;> simp [kinds]
  | word rest hsign hletter =>
    rw [Kind.ofWord_eq]
    split <;> simp [kinds]
  | number rest hsign hletter hdigit => simp [kinds]
  | invalid rest hsign hletter hdigit => simp [kinds]

theorem kind_ne_endOfInput {text : List Char} {lexeme : Lexeme} (h : first? text = some lexeme) :
    lexeme.kind ≠ .endOfInput :=
  ne_of_mem_of_not_mem (kind_mem_kinds h) (by decide)

theorem numeralAfter_isPrefix (digitBefore pointBefore : Bool) (text : List Char) :
    numeralAfter digitBefore pointBefore text <+: text := by
  fun_induction numeralAfter digitBefore pointBefore text with
  | case1 => exact List.prefix_rfl
  | case2 _ _ c rest _ ih => exact (List.prefix_cons_inj c).2 ih
  | case3 _ _ c rest _ _ ih => exact (List.prefix_cons_inj c).2 ih
  | case4 _ _ c rest _ _ _ ih => exact (List.prefix_cons_inj c).2 ih
  | case5 => exact List.nil_prefix

/-- A numeral that begins with a digit may come behind a digit or not. -/
theorem numeralAfter_of_beginsWithDigit {text : List Char} (hbegins : beginsWithDigit text)
    (digitBefore other pointBefore : Bool) :
    numeralAfter digitBefore pointBefore text = numeralAfter other pointBefore text := by
  cases text with
  | nil => rfl
  | cons c rest =>
    have hdigit : Text.isDigit c := hbegins
    rw [numeralAfter, numeralAfter, if_pos hdigit, if_pos hdigit]

theorem text_isPrefix {text : List Char} {lexeme : Lexeme} (h : first? text = some lexeme) :
    lexeme.text <+: text := by
  cases leads_of_first? h with
  | sign rest hsign => exact (List.prefix_cons_inj _).2 List.nil_prefix
  | word rest hsign hletter => exact (List.prefix_cons_inj _).2 (List.takeWhile_prefix _)
  | number rest hsign hletter hdigit =>
    exact (List.prefix_cons_inj _).2 (numeralAfter_isPrefix true false rest)
  | invalid rest hsign hletter hdigit => exact (List.prefix_cons_inj _).2 List.nil_prefix

end Lexeme

end LetArith
