import LetArith.Proofs.Numeral
import LetArith.Proofs.Pieces

namespace LetArith

open Words

/-- The words that are read as a token of a kind. -/
def Kind.lexemes : Kind → Language Char
  | .assign => single '='
  | .plus => single '+'
  | .minus => single '-'
  | .times => single '*'
  | .divide => single '/'
  | .letKeyword => {word | word = "let".toList}
  | .identifier => {word | word ≠ [] ∧ (∀ c ∈ word, Text.isLetter c) ∧ word ≠ "let".toList}
  | .number => Numeral.numeral
  | .invalid => oneOf fun c =>
      Text.isBlank c = false ∧ Text.isLetter c = false ∧ Text.isDigit c = false ∧
        c ∉ ['=', '+', '-', '*', '/']
  | _ => 0

theorem Kind.ofSign?_eq_none_iff {c : Char} : ofSign? c = none ↔ c ∉ ['=', '+', '-', '*', '/'] := by
  rw [ofSign?, List.lookup_eq_none_iff]
  simp [signs]

theorem Kind.ofSign?_eq_none_of_isLetter {c : Char} (h : Text.isLetter c) : ofSign? c = none := by
  cases hsign : ofSign? c with
  | none => rfl
  | some kind => simp [(classes_of_ofSign? hsign).2.1] at h

theorem Kind.ofSign?_eq_none_of_isDigit {c : Char} (h : Text.isDigit c) : ofSign? c = none := by
  cases hsign : ofSign? c with
  | none => rfl
  | some kind => simp [(classes_of_ofSign? hsign).2.2] at h

namespace Lexeme

private theorem first?_of_letters {word : List Char} (hne : word ≠ [])
    (hletters : ∀ c ∈ word, Text.isLetter c) :
    first? word = some ⟨Kind.ofWord (String.ofList word), word⟩ := by
  cases word with
  | nil => exact absurd rfl hne
  | cons c rest =>
    have hletter : Text.isLetter c := hletters c List.mem_cons_self
    have htaken : (c :: rest).takeWhile Text.isLetter = c :: rest :=
      List.takeWhile_eq_self_iff.2 hletters
    rw [first?, Kind.ofSign?_eq_none_of_isLetter hletter]
    simp only [hletter, if_true, htaken]

theorem first?_of_isDigit {c : Char} (hdigit : Text.isDigit c) (rest : List Char) :
    first? (c :: rest) = some ⟨.number, numeral (c :: rest)⟩ := by
  rw [first?, Kind.ofSign?_eq_none_of_isDigit hdigit]
  simp only [Text.isLetter_eq_false_of_isDigit hdigit, hdigit, Bool.false_eq_true, if_false,
    if_true]

theorem first?_of_beginsWithDigit {text : List Char} (hbegins : beginsWithDigit text) :
    first? text = some ⟨.number, numeral text⟩ := by
  cases text with
  | nil => cases hbegins
  | cons c rest => exact first?_of_isDigit hbegins rest

private theorem first?_of_numeral {word : List Char} (hword : word ∈ Numeral.numeral) :
    first? word = some ⟨.number, word⟩ := by
  obtain ⟨c, rest, rfl, hdigit⟩ := Numeral.exists_cons_of_mem_numeral hword
  have hlongest := (Numeral.longest_numeral rest hdigit).longest _ hword List.prefix_rfl
  have heq : c :: numeralAfter true false rest = c :: rest :=
    (Numeral.longest_numeral rest hdigit).isPrefix.eq_of_length_le hlongest.length_le
  rw [first?_of_isDigit hdigit, numeral, numeralAfter, if_pos hdigit, heq]

/-- A word of a kind is a lexeme of that kind by itself. -/
theorem first?_of_mem_lexemes {kind : Kind} {word : List Char} (h : word ∈ kind.lexemes) :
    first? word = some ⟨kind, word⟩ := by
  cases kind with
  | assign | plus | minus | times | divide =>
    obtain ⟨_, rfl, rfl⟩ := h
    rfl
  | letKeyword =>
    obtain rfl : word = "let".toList := h
    decide +kernel
  | identifier =>
    obtain ⟨hne, hletters, hlet⟩ := h
    rw [first?_of_letters hne hletters, Kind.ofWord_eq, if_neg]
    rintro heq
    exact hlet (by rw [← heq, String.toList_ofList])
  | number => exact first?_of_numeral h
  | invalid =>
    obtain ⟨c, ⟨-, hletter, hdigit, hsign⟩, rfl⟩ := h
    rw [first?, Kind.ofSign?_eq_none_iff.2 hsign]
    simp only [hletter, hdigit, Bool.false_eq_true, if_false]
  | _ => cases h

/-- The lexeme of a text is a word of its kind, unless it is a blank. -/
theorem text_mem_lexemes {text : List Char} {lexeme : Lexeme} (h : first? text = some lexeme)
    (hsolid : Text.Solid lexeme.text) : lexeme.text ∈ lexeme.kind.lexemes := by
  cases leads_of_first? h with
  | @sign c kind rest hsign =>
    have hmem := Kind.mem_signs_of_ofSign? hsign
    simp only [Kind.signs, List.mem_cons, Prod.mk.injEq, List.not_mem_nil, or_false] at hmem
    rcases hmem with ⟨rfl, rfl⟩ | ⟨rfl, rfl⟩ | ⟨rfl, rfl⟩ | ⟨rfl, rfl⟩ | ⟨rfl, rfl⟩ <;>
      exact singleton_mem_single _
  | @word c rest hsign hletter =>
    have hletters : ∀ d ∈ c :: rest.takeWhile Text.isLetter, Text.isLetter d :=
      List.forall_mem_cons.2 ⟨hletter, fun d hd => List.mem_takeWhile_imp hd⟩
    simp only [Kind.ofWord_eq]
    split
    · next hlet => exact (String.toList_ofList ▸ congrArg String.toList hlet :)
    · next hlet =>
      refine ⟨by simp, hletters, fun heq => hlet ?_⟩
      rw [heq, String.ofList_toList]
  | number rest hsign hletter hdigit => exact (Numeral.longest_numeral rest hdigit).mem
  | @invalid c rest hsign hletter hdigit =>
    exact ⟨c, ⟨hsolid c (by simp), by simpa using hletter, by simpa using hdigit,
      Kind.ofSign?_eq_none_iff.1 hsign⟩, rfl⟩

/-- The lexeme of a beginning of a text is a beginning of the lexeme of the text. -/
theorem isPrefix_of_isPrefix {text more : List Char} {lexeme other : Lexeme}
    (hbegins : text <+: more) (h : first? text = some lexeme) (h' : first? more = some other) :
    lexeme.text <+: other.text := by
  obtain ⟨behind, rfl⟩ := hbegins
  cases leads_of_first? h with
  | @sign c kind rest hsign =>
    rw [List.cons_append, first?, hsign] at h'
    obtain rfl := Option.some.inj h'
    exact List.prefix_rfl
  | @word c rest hsign hletter =>
    rw [List.cons_append, first?, hsign] at h'
    simp only [hletter, if_true, Option.some.injEq, List.takeWhile_cons] at h'
    obtain rfl := h'
    refine (List.prefix_cons_inj c).2 ?_
    rw [List.takeWhile_append]
    split
    · exact (List.takeWhile_prefix _).trans (List.prefix_append rest _)
    · exact List.prefix_rfl
  | @number c rest hsign hletter hdigit =>
    rw [List.cons_append, first?, hsign] at h'
    simp only [hletter, hdigit, if_true, Bool.false_eq_true, if_false, Option.some.injEq, numeral,
      numeralAfter] at h'
    obtain rfl := h'
    refine (List.prefix_cons_inj c).2 (Numeral.isPrefix_numeralAfter
      (Numeral.numeralAfter_mem true false rest) ?_)
    exact (numeralAfter_isPrefix true false rest).trans (List.prefix_append rest behind)
  | @invalid c rest hsign hletter hdigit =>
    rw [List.cons_append, first?, hsign] at h'
    simp only [hletter, hdigit, Bool.false_eq_true, if_false, Option.some.injEq] at h'
    obtain rfl := h'
    exact List.prefix_rfl

/-- The lexeme of a text is its longest beginning that is a word of any kind. -/
theorem longest_text {text : List Char} {lexeme : Lexeme} (h : first? text = some lexeme)
    (hsolid : Text.Solid lexeme.text) :
    Longest {word | ∃ kind : Kind, word ∈ kind.lexemes} lexeme.text text := by
  refine ⟨⟨lexeme.kind, text_mem_lexemes h hsolid⟩, text_isPrefix h, ?_⟩
  rintro other ⟨kind, hother⟩ hbegins
  exact isPrefix_of_isPrefix hbegins (first?_of_mem_lexemes hother) h

theorem kind_eq_number {lexeme : Lexeme} {behind : List Char}
    (h : first? (lexeme.text ++ behind) = some lexeme) {c : Char} (hc : c ∈ lexeme.text.head?)
    (hdigit : Text.isDigit c) : lexeme.kind = .number := by
  obtain ⟨others, htext⟩ := List.head?_eq_some_iff.1 hc
  rw [htext, List.cons_append, first?_of_isDigit hdigit] at h
  exact (congrArg kind (Option.some.inj h)).symm

/-- A lexeme is a numeral at the beginning of its text, or it has no digit at all. -/
theorem number_or_isDigit_eq_false {text : List Char} {lexeme : Lexeme}
    (h : first? text = some lexeme) :
    lexeme.kind = .number ∧ beginsWithDigit text ∧ lexeme.text = numeral text ∨
      lexeme.kind ≠ .number ∧ ∀ c ∈ lexeme.text, Text.isDigit c = false := by
  cases leads_of_first? h with
  | @sign c kind rest hsign =>
    have hdigit := (Kind.classes_of_ofSign? hsign).2.2
    refine .inr ⟨?_, List.forall_mem_singleton.2 hdigit⟩
    rintro rfl
    have hmem := Kind.mem_signs_of_ofSign? hsign
    simp [Kind.signs] at hmem
  | word rest hsign hletter =>
    refine .inr ⟨?_, List.forall_mem_cons.2 ⟨?_, fun d hd => ?_⟩⟩
    · rw [Kind.ofWord_eq]
      split <;> simp
    · exact Text.isDigit_eq_false_of_isLetter hletter
    · exact Text.isDigit_eq_false_of_isLetter (List.mem_takeWhile_imp hd)
  | number rest hsign hletter hdigit =>
    refine .inl ⟨rfl, hdigit, ?_⟩
    rw [numeral, numeralAfter, if_pos hdigit]
  | invalid rest hsign hletter hdigit =>
    exact .inr ⟨by simp, List.forall_mem_singleton.2 (Bool.eq_false_iff.2 hdigit)⟩

theorem literal_ne_empty {text : List Char} {lexeme : Lexeme} (h : first? text = some lexeme)
    (hsolid : Text.Solid lexeme.text) : lexeme.literal ≠ "" := by
  intro hempty
  have hnil := congrArg String.toList hempty
  rw [literal, String.toList_ofList] at hnil
  split at hnil
  · next hnumber =>
    have hmem := text_mem_lexemes h hsolid
    rw [hnumber] at hmem
    obtain ⟨c, rest, htext, hdigit⟩ := Numeral.exists_cons_of_mem_numeral hmem
    rw [htext] at hnil
    have hdropped := List.filter_eq_nil_iff.1 hnil c List.mem_cons_self
    exact hdropped (bne_iff_ne.2 (Numeral.isDigit_ne_mark hdigit).1)
  · exact (first?_ne_nil h).2 hnil

/-- No letter comes behind a letter at the end of a lexeme. -/
theorem isLetter_head?_eq_false {lexeme : Lexeme} {behind : List Char}
    (h : first? (lexeme.text ++ behind) = some lexeme) {c : Char} (hc : c ∈ lexeme.text)
    (hletter : Text.isLetter c) : ∀ d ∈ behind.head?, Text.isLetter d = false := by
  generalize htext : lexeme.text ++ behind = text at h
  cases leads_of_first? h with
  | sign rest hsign =>
    rw [List.mem_singleton.1 hc, (Kind.classes_of_ofSign? hsign).2.1] at hletter
    cases hletter
  | word rest hsign _ =>
    rw [List.cons_append, List.cons.injEq] at htext
    have hbehind : behind = rest.dropWhile Text.isLetter :=
      List.append_cancel_left (htext.2.trans List.takeWhile_append_dropWhile.symm)
    intro d hd
    have hstop := List.head?_dropWhile_not Text.isLetter rest
    rw [hbehind] at hd
    rwa [hd] at hstop
  | number rest hsign hfirst hdigit =>
    rcases List.mem_cons.1 hc with rfl | hc
    · exact absurd hletter hfirst
    · rw [(classes_of_mem_numeralAfter hc).2] at hletter
      cases hletter
  | invalid rest hsign hfirst hdigit =>
    rw [List.mem_singleton.1 hc] at hletter
    exact absurd hletter hfirst

end Lexeme

end LetArith
