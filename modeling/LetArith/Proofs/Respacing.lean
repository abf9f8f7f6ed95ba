import LetArith.Proofs.Boundary
import LetArith.Proofs.Matching

namespace LetArith

open Words

namespace Numeral

/-- A numeral still goes on as one may when its separators are taken out. -/
theorem withoutSeparators_mem_continuation {digitBefore pointBefore : Bool} {text : List Char}
    (htext : text ∈ continuation digitBefore pointBefore) :
    Lexeme.withoutSeparators text ∈ continuation digitBefore pointBefore := by
  induction text generalizing digitBefore pointBefore with
  | nil => exact nil_mem_continuation digitBefore pointBefore
  | cons c text ih =>
    rw [Lexeme.withoutSeparators, List.filter_cons]
    rcases cons_mem_continuation.1 htext with
      ⟨hdigit, hrest⟩ | ⟨rfl, rfl, hrest⟩ | ⟨rfl, rfl, hrest⟩
    · rw [if_pos (bne_iff_ne.2 (isDigit_ne_mark hdigit).1)]
      exact cons_mem_continuation.2 (.inl ⟨hdigit, ih hrest⟩)
    · -- Behind a separator there is a digit, which may come right behind the digit before.
      obtain ⟨next, rest, rfl, hdigit, hbehind⟩ := exists_cons_of_mem_digit_mul hrest
      rw [if_neg (by decide)]
      exact ih (cons_mem_continuation.2 (.inl ⟨hdigit, hbehind⟩))
    · rw [if_pos (by decide)]
      exact cons_mem_continuation.2 (.inr (.inr ⟨rfl, rfl, ih hrest⟩))

private theorem withoutSeparators_mem {text : List Char} (htext : text ∈ numeral) :
    Lexeme.withoutSeparators text ∈ numeral := by
  rw [numeral_eq] at htext ⊢
  obtain ⟨c, rest, rfl, hdigit, hrest⟩ := exists_cons_of_mem_digit_mul htext
  rw [Lexeme.withoutSeparators, List.filter_cons,
    if_pos (bne_iff_ne.2 (isDigit_ne_mark hdigit).1)]
  exact cons_mem_oneOf_mul.2 ⟨hdigit, withoutSeparators_mem_continuation hrest⟩

end Numeral

namespace Lexeme

/-- The lexeme whose text is the literal of another one. -/
def bare (lexeme : Lexeme) : Lexeme := ⟨lexeme.kind, lexeme.literal.toList⟩

theorem text_bare (lexeme : Lexeme) :
    lexeme.bare.text =
      if lexeme.kind = .number then withoutSeparators lexeme.text else lexeme.text :=
  String.toList_ofList

/-- A lexeme without separators has no more of them to lose. -/
@[simp] theorem literal_bare (lexeme : Lexeme) : lexeme.bare.literal = lexeme.literal := by
  rw [literal, literal, text_bare]
  by_cases hnumber : lexeme.kind = .number
  · have hnumber' : lexeme.bare.kind = .number := hnumber
    rw [if_pos hnumber, if_pos hnumber', withoutSeparators, withoutSeparators, List.filter_filter]
    simp only [Bool.and_self]
  · have hnumber' : ¬ lexeme.bare.kind = .number := hnumber
    rw [if_neg hnumber, if_neg hnumber']

theorem text_bare_mem_lexemes {lexeme : Lexeme} (h : lexeme.text ∈ lexeme.kind.lexemes) :
    lexeme.bare.text ∈ lexeme.bare.kind.lexemes := by
  rw [text_bare]
  split
  · next hnumber =>
    rw [hnumber] at h
    rw [bare, hnumber]
    exact Numeral.withoutSeparators_mem h
  · exact h

end Lexeme

namespace Piece

/-- Lexemes of their kinds that blanks keep apart are the pieces of their text. -/
theorem all_of_parted {pieces : List Piece}
    (hblanks : ∀ piece ∈ pieces, Text.Blank piece.blanks ∧ piece.blanks ≠ [])
    (hlexemes : ∀ piece ∈ pieces, piece.lexeme.text ∈ piece.lexeme.kind.lexemes) :
    all (pieces.flatMap text) = pieces := by
  induction pieces with
  | nil => exact all_of_blank (by simp [Text.Blank])
  | cons piece others ih =>
    obtain ⟨⟨hblank, -⟩, hblanks⟩ := List.forall_mem_cons.1 hblanks
    obtain ⟨hlexeme, hlexemes⟩ := List.forall_mem_cons.1 hlexemes
    have hbehind : ∀ c ∈ (others.flatMap text).head?, piece.lexeme.kind.takes c = false := by
      cases others with
      | nil => simp
      | cons next others =>
        obtain ⟨hnext, hne⟩ := hblanks next List.mem_cons_self
        obtain ⟨blank, blanks, hcons⟩ := List.exists_cons_of_ne_nil hne
        rw [List.flatMap_cons, text, hcons]
        rintro c ⟨⟩
        exact Kind.takes_eq_false_of_isBlank (hnext _ (by simp [hcons]))
    have hfirst := Lexeme.first?_append (Lexeme.first?_of_mem_lexemes hlexeme) hbehind
    have hall := all_append hblank hfirst (Lexeme.solid_of_mem_lexemes hlexeme)
    rwa [ih hblanks hlexemes, ← List.append_assoc] at hall

/-- A piece without separators, behind one space. -/
def respaced (piece : Piece) : Piece := ⟨[' '], piece.lexeme.bare⟩

private theorem map_word_all_respaced (text : List Char) :
    (all (((all text).map respaced).flatMap Piece.text)).map word = (all text).map word := by
  rw [all_of_parted, List.map_map]
  · refine List.map_congr_left fun piece _ => ?_
    rw [Function.comp_apply, word, word, respaced, Lexeme.literal_bare]
    rfl
  · refine List.forall_mem_map.2 fun piece _ => ⟨Text.blank_space, ?_⟩
    simp [respaced]
  · exact List.forall_mem_map.2 fun piece hpiece =>
      Lexeme.text_bare_mem_lexemes (text_mem_lexemes text piece hpiece)

end Piece

theorem Text.space_intercalate {words : List (List Char)} (hne : words ≠ []) :
    ' ' :: [' '].intercalate words = words.flatMap (' ' :: ·) := by
  induction words with
  | nil => exact absurd rfl hne
  | cons word words ih =>
    cases words with
    | nil => simp
    | cons next words =>
      rw [List.intercalate_cons_cons, List.flatMap_cons, ← ih (List.cons_ne_nil _ _)]
      simp

/-- The literals of a text with one space between two of them. -/
def respace (text : String) : Except Fault String :=
  (tokenize text).map fun tokens => " ".intercalate (tokens.map Token.literal)

private theorem map_literal_eq (tokens : List Token) :
    tokens.map Token.literal = (tokens.map Token.word).map Prod.snd := by
  rw [List.map_map]
  rfl

/-- The literals of a text, spaced anew, have the same kinds and literals as the text. -/
theorem map_word_respaced (text : List Char) :
    (Piece.all (" ".intercalate ((Piece.tokens {} (Piece.all text)).map Token.literal)).toList).map
      Piece.word = (Piece.all text).map Piece.word := by
  rw [map_literal_eq, Piece.map_word_tokens, List.map_map, String.toList_intercalate, List.map_map]
  by_cases hnone : Piece.all text = []
  · rw [hnone]
    exact congrArg _ (Piece.all_of_blank (by simp [Text.Blank]))
  · -- With one more space in front, every literal comes behind a space of its own.
    have hspaced : ((Piece.all text).map Piece.respaced).flatMap Piece.text =
        [' '] ++ [' '].intercalate
          ((Piece.all text).map (String.toList ∘ Prod.snd ∘ Piece.word)) := by
      rw [List.singleton_append, Text.space_intercalate (by simpa using hnone), List.flatMap_map,
        List.flatMap_map]
      rfl
    have hwords := Piece.map_word_all_respaced text
    rwa [hspaced, ← Piece.map_word_tokens {}, Piece.tokens_all_blanks _ Text.blank_space,
      Piece.map_word_tokens] at hwords

/-- Spacing a text anew keeps its meaning, whether the text is a program or not: the new text has
    the same kinds and literals in the same order, it is spaced as it would be spaced anew, and it
    is parsed to an equal program or refused for the same reason at the token of the same index. -/
theorem respace_keeps_reading (text : String) :
    ∃ spaced, respace text = .ok spaced ∧ respace spaced = .ok spaced ∧
      ∃ (tokens others : List Token) (last last' : Token),
        tokenize text = .ok tokens ∧ tokensToEnd text = .ok (tokens ++ [last]) ∧
        tokenize spaced = .ok others ∧ tokensToEnd spaced = .ok (others ++ [last']) ∧
        others.map Token.word = tokens.map Token.word ∧
        last'.word = last.word ∧
        ReadAlike (tokens ++ [last]) (others ++ [last']) (parse text) (parse spaced) := by
  obtain ⟨htokenize, htokensToEnd⟩ := tokens_eq text
  set tokens := Piece.tokens {} (Piece.all text.toList) with htokens
  set spaced := " ".intercalate (tokens.map Token.literal) with hspaced
  obtain ⟨htokenize', htokensToEnd'⟩ := tokens_eq spaced
  set others := Piece.tokens {} (Piece.all spaced.toList) with hothers
  have hwords : others.map Token.word = tokens.map Token.word := by
    rw [hothers, htokens, Piece.map_word_tokens, Piece.map_word_tokens, hspaced]
    exact map_word_respaced text.toList
  have hrespace : respace text = .ok spaced := by
    rw [respace, htokenize]
    rfl
  have hsettled : respace spaced = .ok spaced := by
    rw [respace, htokenize', hspaced, map_literal_eq tokens, ← hwords, ← map_literal_eq]
    rfl
  refine ⟨spaced, hrespace, hsettled, tokens, others, _, _, htokenize, htokensToEnd, htokenize',
    htokensToEnd', hwords, rfl, ?_⟩
  apply readAlike_of_map_word_eq htokensToEnd htokensToEnd'
  rw [List.map_append, List.map_append, hwords]
  rfl

end LetArith
