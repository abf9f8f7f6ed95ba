import LetArith.Proofs.Adjacent
import LetArith.Proofs.Spans

namespace LetArith

namespace Piece

theorem tokens_append (cursor : Cursor) (pieces others : List Piece) :
    tokens cursor (pieces ++ others) =
      tokens cursor pieces ++ tokens (cursor.walk (pieces.flatMap text)) others := by
  induction pieces generalizing cursor with
  | nil => rfl
  | cons piece pieces ih => simp [tokens, ih, Cursor.walk_append]

/-- Blanks before a text move its tokens, and change nothing else about them. -/
theorem tokens_all_blanks (cursor : Cursor) {blanks : List Char} (hblanks : Text.Blank blanks)
    (behind : List Char) :
    tokens cursor (all (blanks ++ behind)) = tokens (cursor.walk blanks) (all behind) := by
  induction behind using Piece.induction with
  | blank behind hbehind =>
    rw [all_of_blank hbehind, all_of_blank (List.forall_mem_append.2 ⟨hblanks, hbehind⟩)]
    rfl
  | piece more lexeme rest hmore hfirst hsolid =>
    rw [all_append hmore hfirst hsolid, ← List.append_assoc,
      all_append (List.forall_mem_append.2 ⟨hblanks, hmore⟩) hfirst hsolid]
    simp [tokens, text, Cursor.walk_append]

/-- A blank parts a text: the pieces before it are those of the text that ends there. -/
theorem exists_all_append (text : List Char) :
    ∃ last, Text.Blank last ∧ text = (all text).flatMap Piece.text ++ last ∧
      ∀ behind : List Char, (∀ c ∈ behind.head?, Text.isBlank c) →
        all (text ++ behind) = all text ++ all (last ++ behind) := by
  induction text using Piece.induction with
  | blank text hblank =>
    refine ⟨text, hblank, ?_, fun behind _ => ?_⟩ <;> rw [all_of_blank hblank] <;> rfl
  | piece blanks lexeme rest hblanks hfirst hsolid ih =>
    obtain ⟨last, hlast, hrest, hbehind⟩ := ih
    refine ⟨last, hlast, ?_, fun behind hhead => ?_⟩
    · rw [all_append hblanks hfirst hsolid, List.flatMap_cons, List.append_assoc, ← hrest]
      simp [Piece.text]
    · have hmore : Lexeme.first? (lexeme.text ++ (rest ++ behind)) = some lexeme := by
        rw [← List.append_assoc]
        exact Lexeme.first?_append hfirst fun c hc => Kind.takes_eq_false_of_isBlank (hhead c hc)
      rw [List.append_assoc, List.append_assoc, all_append hblanks hmore hsolid,
        all_append hblanks hfirst hsolid, hbehind behind hhead, List.cons_append]

/-- The tokens before a blank are those of the text that ends there, and those behind it are the ones
    of what follows. -/
theorem tokens_all_append (cursor : Cursor) (text : List Char) {behind : List Char}
    (hbehind : ∀ c ∈ behind.head?, Text.isBlank c) :
    tokens cursor (all (text ++ behind)) =
      tokens cursor (all text) ++ tokens (cursor.walk text) (all behind) := by
  obtain ⟨last, hlast, htext, happend⟩ := exists_all_append text
  rw [happend behind hbehind, tokens_append, tokens_all_blanks _ hlast, ← Cursor.walk_append,
    ← htext]

end Piece

end LetArith
