import LetArith.Proofs.Classes
import LetArith.Proofs.Grammar
import LetArith.Proofs.Trace

namespace LetArith

open Words

/-- Whether a lexeme of a kind takes in a character right behind it. -/
def Kind.takes : Kind → Char → Bool
  | .letKeyword, c | .identifier, c => Text.isLetter c
  | .number, c => Text.isDigit c || c = Lexeme.digitSeparator || c = Lexeme.decimalPoint
  | _, _ => false

theorem Kind.takes_eq_false_of_isBlank {kind : Kind} {c : Char} (hc : Text.isBlank c) :
    kind.takes c = false := by
  have hletter : Text.isLetter c = false := by
    rw [Bool.eq_false_iff]
    intro hletter
    rw [Text.isBlank_eq_false_of_isLetter hletter] at hc
    cases hc
  have hdigit : Text.isDigit c = false := Text.isDigit_eq_false_of_isBlank hc
  have hmark : ¬ (c = Lexeme.digitSeparator ∨ c = Lexeme.decimalPoint) := by
    intro hmark
    rw [(Lexeme.classes_of_mark hmark).1] at hc
    cases hc
  rw [not_or] at hmark
  cases kind <;> simp [takes, hletter, hdigit, hmark]

namespace Lexeme

/-- Where a character comes that no numeral takes in, scanning a numeral stops as at the end of a
    text. -/
theorem numeralAfter_append (digitBefore pointBefore : Bool) (text : List Char) {behind : List Char}
    (hbehind : ∀ c ∈ behind.head?, Kind.takes .number c = false) :
    numeralAfter digitBefore pointBefore (text ++ behind) =
      numeralAfter digitBefore pointBefore text := by
  have hstop (digitBefore pointBefore : Bool) : numeralAfter digitBefore pointBefore behind = [] := by
    cases behind with
    | nil => rfl
    | cons c behind =>
      have hc := hbehind c rfl
      simp only [Kind.takes, Bool.or_eq_false_iff, decide_eq_false_iff_not] at hc
      simp [numeralAfter, hc]
  have hbegins (rest : List Char) : beginsWithDigit (rest ++ behind) = beginsWithDigit rest := by
    cases rest with
    | cons c rest => rfl
    | nil =>
      cases behind with
      | nil => rfl
      | cons c behind =>
        have hc := hbehind c rfl
        simp only [Kind.takes, Bool.or_eq_false_iff] at hc
        exact hc.1.1
  fun_induction numeralAfter digitBefore pointBefore text with
  | case1 digitBefore pointBefore => exact hstop digitBefore pointBefore
  | case2 _ _ c rest hdigit ih => rw [List.cons_append, numeralAfter, if_pos hdigit, ih]
  | case3 _ _ c rest hdigit hseparator ih =>
    rw [List.cons_append, numeralAfter, if_neg hdigit, hbegins, if_pos hseparator, ih]
  | case4 _ _ c rest hdigit hseparator hpoint ih =>
    rw [List.cons_append, numeralAfter, if_neg hdigit, hbegins, if_neg hseparator, if_pos hpoint, ih]
  | case5 _ _ c rest hdigit hseparator hpoint =>
    rw [List.cons_append, numeralAfter, if_neg hdigit, hbegins, if_neg hseparator, if_neg hpoint]

private theorem takeWhile_append_of_head? {p : Char → Bool} (text : List Char) {behind : List Char}
    (hbehind : ∀ c ∈ behind.head?, p c = false) :
    (text ++ behind).takeWhile p = text.takeWhile p := by
  have hstop : behind.takeWhile p = [] := by
    cases behind with
    | nil => rfl
    | cons c behind => simp [hbehind c rfl]
  rw [List.takeWhile_append, hstop, List.append_nil]
  split
  · next hlength => exact ((List.takeWhile_prefix p).eq_of_length hlength).symm
  · rfl

/-- The lexeme of a text is the lexeme of every longer one that goes on with no character that it
    takes in. -/
theorem first?_append {text behind : List Char} {lexeme : Lexeme} (h : first? text = some lexeme)
    (hbehind : ∀ c ∈ behind.head?, lexeme.kind.takes c = false) :
    first? (text ++ behind) = some lexeme := by
  cases leads_of_first? h with
  | sign rest hsign => simp [first?, hsign]
  | @word c rest hsign hletter =>
    have hstop : ∀ d ∈ behind.head?, Text.isLetter d = false := by
      rw [Kind.ofWord_eq] at hbehind
      split at hbehind <;> exact hbehind
    have htaken := takeWhile_append_of_head? rest hstop
    simp only [List.cons_append, first?, hsign, hletter, if_true, List.takeWhile_cons, htaken]
  | @number c rest hsign hletter hdigit =>
    have htaken := numeralAfter_append true false rest hbehind
    simp only [List.cons_append, first?, hsign, if_neg hletter, hdigit, if_true, numeral, numeralAfter,
      htaken]
  | invalid rest hsign hletter hdigit => simp [first?, hsign, hletter, hdigit]

/-- A lexeme that is no number takes in no character that comes behind it. -/
theorem takes_head?_eq_false {lexeme : Lexeme} {rest : List Char}
    (h : first? (lexeme.text ++ rest) = some lexeme) (hsolid : Text.Solid lexeme.text)
    (hnumber : lexeme.kind ≠ .number) : ∀ c ∈ rest.head?, lexeme.kind.takes c = false := by
  have hmem := text_mem_lexemes h hsolid
  have hletter (hword : ∀ c ∈ lexeme.text, Text.isLetter c) :
      ∀ c ∈ rest.head?, Text.isLetter c = false := by
    have hhead := List.head_mem (first?_ne_nil h).2
    exact isLetter_head?_eq_false h hhead (hword _ hhead)
  intro c hc
  cases hkind : lexeme.kind with
  | letKeyword =>
    rw [hkind] at hmem
    have htext : lexeme.text = "let".toList := hmem
    exact hletter (List.all_eq_true.1 (htext ▸ by decide +kernel)) c hc
  | identifier =>
    rw [hkind] at hmem
    exact hletter hmem.2.1 c hc
  | number => exact absurd hkind hnumber
  | _ => rfl

private theorem isBlank_head?_eq_false {kind : Kind} {word : List Char}
    (hword : word ∈ kind.lexemes) :
    ∀ c ∈ word.head?, Text.isBlank c = false := by
  intro c hc
  cases kind with
  | assign | plus | minus | times | divide =>
    obtain ⟨_, rfl, rfl⟩ := hword
    obtain rfl := Option.some.inj hc
    decide +kernel
  | letKeyword =>
    obtain rfl : word = "let".toList := hword
    obtain rfl : 'l' = c := Option.some.inj hc
    decide +kernel
  | identifier => exact Text.isBlank_eq_false_of_isLetter (hword.2.1 c (List.mem_of_head? hc))
  | number =>
    obtain ⟨first, rest, rfl, hdigit⟩ := Numeral.exists_cons_of_mem_numeral hword
    obtain rfl := Option.some.inj hc
    exact Text.isBlank_eq_false_of_isDigit hdigit
  | invalid =>
    obtain ⟨first, ⟨hblank, -⟩, rfl⟩ := hword
    obtain rfl := Option.some.inj hc
    exact hblank
  | _ => cases hword

theorem solid_of_mem_lexemes {kind : Kind} {word : List Char} (hword : word ∈ kind.lexemes) :
    Text.Solid word :=
  solid_text (first?_of_mem_lexemes hword) (isBlank_head?_eq_false hword)

end Lexeme

/-- In the order of the grammar a lexeme takes in no character of the next one, unless that one is a
    name. -/
theorem Kind.takes_head?_eq_false {previous kind : Kind} {word : List Char}
    (hfollows : Grammar.follows (some previous) kind) (hkind : kind ≠ .identifier)
    (hword : word ∈ kind.lexemes) : ∀ c ∈ word.head?, previous.takes c = false := by
  intro c hc
  cases previous with
  | letKeyword => exact absurd (of_decide_eq_true hfollows) hkind
  | identifier =>
    obtain rfl := of_decide_eq_true hfollows
    obtain ⟨_, rfl, rfl⟩ := hword
    obtain rfl := Option.some.inj hc
    decide +kernel
  | number =>
    cases kind with
    | plus | minus | times | divide =>
      obtain ⟨_, rfl, rfl⟩ := hword
      obtain rfl := Option.some.inj hc
      decide +kernel
    | letKeyword =>
      obtain rfl : word = "let".toList := hword
      obtain rfl : 'l' = c := Option.some.inj hc
      decide +kernel
    | endOfInput => cases hword
    | _ => cases hfollows
  | _ => rfl

namespace Piece

/-- The lexeme of a piece of a text is a word of its kind. -/
theorem text_mem_lexemes (text : List Char) :
    ∀ piece ∈ all text, piece.lexeme.text ∈ piece.lexeme.kind.lexemes := by
  induction text using Piece.induction with
  | blank text hblank => simp [all_of_blank hblank]
  | piece blanks lexeme rest hblanks hfirst hsolid ih =>
    rw [all_append hblanks hfirst hsolid]
    exact List.forall_mem_cons.2 ⟨Lexeme.text_mem_lexemes hfirst hsolid, ih⟩

/-- A word of its kind behind blanks, of which a name has one at least. -/
structure Worded (piece : Piece) : Prop where
  blank : Text.Blank piece.blanks
  mem_lexemes : piece.lexeme.text ∈ piece.lexeme.kind.lexemes
  apart : piece.lexeme.kind = .identifier → piece.blanks ≠ []

theorem takes_head?_eq_false {previous : Kind} {piece : Piece} {behind : List Char}
    (hworded : piece.Worded) (hfollows : Grammar.follows (some previous) piece.lexeme.kind) :
    ∀ c ∈ (piece.text ++ behind).head?, previous.takes c = false := by
  intro c hc
  rw [text, List.append_assoc] at hc
  cases hblanks : piece.blanks with
  | cons blank blanks =>
    rw [hblanks] at hc
    obtain rfl := Option.some.inj hc
    exact Kind.takes_eq_false_of_isBlank (hworded.blank _ (by simp [hblanks]))
  | nil =>
    have hkind : piece.lexeme.kind ≠ .identifier := fun hkind => hworded.apart hkind hblanks
    have hne := (Lexeme.first?_ne_nil (Lexeme.first?_of_mem_lexemes hworded.mem_lexemes)).2
    rw [hblanks, List.nil_append, List.head?_append_of_ne_nil _ hne] at hc
    exact Kind.takes_head?_eq_false hfollows hkind hworded.mem_lexemes c hc

/-- Worded pieces in the order of the grammar, with blanks behind them, are the pieces of their
    text. -/
theorem all_of_admitted {previous : Option Kind} {pieces : List Piece} {last : List Char}
    (hworded : ∀ piece ∈ pieces, piece.Worded)
    (hadmitted : Grammar.Admitted previous (pieces.map fun piece => piece.lexeme.kind))
    (hlast : Text.Blank last) : all (pieces.flatMap text ++ last) = pieces := by
  induction pieces generalizing previous with
  | nil => exact all_of_blank hlast
  | cons piece others ih =>
    obtain ⟨hpiece, hothers⟩ := List.forall_mem_cons.1 hworded
    have hbehind : ∀ c ∈ (others.flatMap text ++ last).head?,
        piece.lexeme.kind.takes c = false := by
      cases others with
      | nil =>
        intro c hc
        exact Kind.takes_eq_false_of_isBlank (hlast c (List.mem_of_head? hc))
      | cons next others =>
        rw [List.flatMap_cons, List.append_assoc]
        exact takes_head?_eq_false (hothers next List.mem_cons_self) hadmitted.2.1
    have hfirst :=
      Lexeme.first?_append (Lexeme.first?_of_mem_lexemes hpiece.mem_lexemes) hbehind
    have hsolid := Lexeme.solid_of_mem_lexemes hpiece.mem_lexemes
    have hall := all_append hpiece.blank hfirst hsolid
    rw [ih hothers hadmitted.2] at hall
    rwa [List.flatMap_cons, text, List.append_assoc, List.append_assoc]

end Piece

end LetArith
