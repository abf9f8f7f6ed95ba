import LetArith.Proofs.Pieces
import LetArith.Proofs.Reading

namespace LetArith

namespace Piece

/-- The tokens that pieces become when they lie at a cursor one after another. -/
def tokens (cursor : Cursor) : List Piece → List Token
  | [] => []
  | piece :: others =>
    ⟨piece.lexeme.kind, piece.lexeme.literal, cursor.walk piece.blanks⟩ ::
      tokens (cursor.walk piece.text) others

@[simp] theorem length_tokens (cursor : Cursor) (pieces : List Piece) :
    (tokens cursor pieces).length = pieces.length := by
  induction pieces generalizing cursor with
  | nil => rfl
  | cons piece others ih => simp [tokens, ih]

/-- The characters of the first so many pieces. -/
def front (pieces : List Piece) (n : Nat) : List Char := (pieces.take n).flatMap text

@[simp] theorem front_zero (pieces : List Piece) : front pieces 0 = [] := rfl

@[simp] theorem front_cons_succ (piece : Piece) (others : List Piece) (n : Nat) :
    front (piece :: others) (n + 1) = piece.text ++ front others n := rfl

theorem front_succ {pieces : List Piece} {n : Nat} (hn : n < pieces.length) :
    front pieces (n + 1) = front pieces n ++ pieces[n].text := by
  induction pieces generalizing n with
  | nil => simp at hn
  | cons piece others ih =>
    cases n with
    | zero => simp [front]
    | succ n => simp [ih (by simpa using hn)]

theorem getElem_tokens (cursor : Cursor) {pieces : List Piece} {n : Nat}
    (hn : n < (tokens cursor pieces).length) :
    (tokens cursor pieces)[n] =
      have hn : n < pieces.length := by simpa using hn
      ⟨pieces[n].lexeme.kind, pieces[n].lexeme.literal,
        cursor.walk (front pieces n ++ pieces[n].blanks)⟩ := by
  induction pieces generalizing cursor n with
  | nil => simp [tokens] at hn
  | cons piece others ih =>
    cases n with
    | zero => rfl
    | succ n => simp [tokens, ih, Cursor.walk_append]

end Piece

theorem Token.scan_of_blank (cursor : Cursor) {text : List Char} (hblank : Text.Blank text) :
    Token.scan cursor text = (⟨.endOfInput, "", cursor.walk text⟩, cursor.walk text) := by
  have hdropped : text.dropWhile Text.isBlank = [] := List.dropWhile_eq_nil_iff.2 hblank
  have htaken : text.takeWhile Text.isBlank = text := List.takeWhile_eq_self_iff.2 hblank
  rw [Token.scan, hdropped, htaken]
  rfl

theorem Token.scan_append (cursor : Cursor) {blanks rest : List Char} {lexeme : Lexeme}
    (hblanks : Text.Blank blanks) (hfirst : Lexeme.first? (lexeme.text ++ rest) = some lexeme)
    (hsolid : Text.Solid lexeme.text) :
    Token.scan cursor (blanks ++ (lexeme.text ++ rest)) =
      (⟨lexeme.kind, lexeme.literal, cursor.walk blanks⟩,
        cursor.walk (blanks ++ lexeme.text)) := by
  obtain ⟨htaken, hdropped⟩ := Piece.takeWhile_append hblanks hfirst hsolid
  rw [Token.scan, htaken, hdropped, hfirst, Cursor.walk_append]

/-- A text is blank and holds no further token, or it begins with a piece and its token is scanned. -/
theorem Token.scan_cases (cursor : Cursor) (text : List Char) :
    (Text.Blank text ∧
      Token.scan cursor text = (⟨.endOfInput, "", cursor.walk text⟩, cursor.walk text)) ∨
    ∃ blanks lexeme behind, text = blanks ++ (lexeme.text ++ behind) ∧
      Lexeme.first? (lexeme.text ++ behind) = some lexeme ∧ Text.Solid lexeme.text ∧
      Token.scan cursor text =
        (⟨lexeme.kind, lexeme.literal, cursor.walk blanks⟩,
          cursor.walk (blanks ++ lexeme.text)) := by
  induction text using Piece.induction with
  | blank text hblank => exact .inl ⟨hblank, scan_of_blank cursor hblank⟩
  | piece blanks lexeme behind hblanks hfirst hsolid =>
    exact .inr ⟨blanks, lexeme, behind, rfl, hfirst, hsolid,
      scan_append cursor hblanks hfirst hsolid⟩

theorem Piece.exists_blanks (text : List Char) :
    ∃ blanks, Text.Blank blanks ∧ text = (all text).flatMap Piece.text ++ blanks := by
  induction text using Piece.induction with
  | blank text hblank => exact ⟨text, hblank, by rw [all_of_blank hblank]; rfl⟩
  | piece blanks lexeme rest hblanks hfirst hsolid ih =>
    obtain ⟨last, hlast, hrest⟩ := ih
    refine ⟨last, hlast, ?_⟩
    rw [all_append hblanks hfirst hsolid, List.flatMap_cons, List.append_assoc, ← hrest]
    simp [Piece.text]

/-- Where a piece lies in its text: behind the pieces before it there are its blanks, and behind
    them its lexeme begins what is left of the text. -/
theorem Piece.exists_behind (text : List Char) {n : Nat} (hn : n < (all text).length) :
    Text.Blank (all text)[n].blanks ∧ Text.Solid (all text)[n].lexeme.text ∧
      ∃ behind, text = front (all text) n ++
          ((all text)[n].blanks ++ ((all text)[n].lexeme.text ++ behind)) ∧
        Lexeme.first? ((all text)[n].lexeme.text ++ behind) = some (all text)[n].lexeme := by
  induction text using Piece.induction generalizing n with
  | blank text hblank => simp [all_of_blank hblank] at hn
  | piece blanks lexeme rest hblanks hfirst hsolid ih =>
    simp only [all_append hblanks hfirst hsolid] at hn ⊢
    cases n with
    | zero => exact ⟨hblanks, hsolid, rest, rfl, hfirst⟩
    | succ n =>
      obtain ⟨hblank, hsolid, behind, hrest, hfirst⟩ := ih (by simpa using hn)
      refine ⟨hblank, hsolid, behind, ?_, hfirst⟩
      rw [front_cons_succ, List.getElem_cons_succ, List.append_assoc, ← hrest]
      simp [Piece.text]

namespace Lexer

/-- The lexer after so many steps. -/
def after : Lexer → Nat → Lexer
  | l, 0 => l
  | l, n + 1 => after l.next.lexer n

theorem after_succ {l l' : Lexer} {token : Token} (h : l.next = .ok token l') (n : Nat) :
    l.after (n + 1) = l'.after n := by
  rw [after, h]
  rfl

theorem after_succ_of_next_after {l l' : Lexer} {n : Nat} {token : Token}
    (h : (l.after n).next = .ok token l') : l.after (n + 1) = l' := by
  induction n generalizing l with
  | zero => exact after_succ h 0
  | succ n ih => exact ih h

/-- Each step after so many others reads the token of that index. -/
theorem Reads.next_after {l l' : Lexer} {tokens : List Token} (h : Reads l tokens l') {i : Nat}
    (hi : i < tokens.length) : (l.after i).next = .ok tokens[i] (l.after (i + 1)) := by
  induction h generalizing i with
  | nil _ => simp at hi
  | @cons l l₁ l₂ token tokens hnext _ ih =>
    rw [after_succ hnext]
    cases i with
    | zero => exact hnext
    | succ i =>
      rw [after_succ hnext]
      exact ih (by simpa using hi)

/-- Behind a reading the lexer is the one after so many steps, but for what parsers noted. -/
theorem Reads.alike_after {l l' : Lexer} {tokens : List Token} (h : Reads l tokens l') :
    Alike (l.after tokens.length) l' := by
  induction h with
  | nil halike => exact halike
  | cons hnext _ ih =>
    rw [List.length_cons, after_succ hnext]
    exact ih

theorem next_after {text : String} {tokens : List Token} (htokenize : tokenize text = .ok tokens)
    {i : Nat} (hi : i < tokens.length) :
    ((ofString text).after i).next = .ok tokens[i] ((ofString text).after (i + 1)) := by
  obtain ⟨drained, last, l₁, l', hdrain, hreads, hlast, hend, -⟩ :=
    exists_drain (within_ofString text)
  have hsame := (tokens_of_drain hdrain (next_of_endOfInput hlast hend)).1
  obtain rfl := Except.ok.inj (htokenize.symm.trans hsame)
  exact hreads.next_after hi

private theorem next_of_blank {l : Lexer} (hposition : 0 ≤ l.cursor.position)
    (hblank : Text.Blank l.rest) :
    ∃ l', l.next = .ok ⟨.endOfInput, "", l.cursor.walk l.rest⟩ l' := by
  rw [next_eq, tokenAt?_eq_scan hposition, Token.scan_of_blank _ hblank]
  exact ⟨_, rfl⟩

/-- Where a piece comes first, its token is read, and what lies behind the piece is left. -/
theorem next_of_piece {l : Lexer} {blanks behind : List Char} {lexeme : Lexeme}
    (hposition : 0 ≤ l.cursor.position) (hrest : l.rest = blanks ++ (lexeme.text ++ behind))
    (hblanks : Text.Blank blanks) (hfirst : Lexeme.first? (lexeme.text ++ behind) = some lexeme)
    (hsolid : Text.Solid lexeme.text) :
    ∃ l', l.next = .ok ⟨lexeme.kind, lexeme.literal, l.cursor.walk blanks⟩ l' ∧
      l'.cursor = l.cursor.walk (blanks ++ lexeme.text) ∧ 0 ≤ l'.cursor.position ∧
      l'.rest = behind := by
  have hdrop : l.source.drop l.cursor.position.toNat = blanks ++ (lexeme.text ++ behind) := by
    rwa [rest, if_pos hposition] at hrest
  rw [next_eq, tokenAt?_eq_scan hposition, hrest, Token.scan_append _ hblanks hfirst hsolid]
  have hwalked : 0 ≤ (l.cursor.walk (blanks ++ lexeme.text)).position := by
    rw [Cursor.position_walk]
    omega
  refine ⟨_, rfl, rfl, hwalked, ?_⟩
  rw [rest, if_pos hwalked, Cursor.position_walk]
  have hoffset : (l.cursor.position + (blanks ++ lexeme.text).length).toNat =
      l.cursor.position.toNat + (blanks ++ lexeme.text).length := by omega
  rw [hoffset, ← List.drop_drop, hdrop, ← List.append_assoc, List.drop_left]

/-- A lexer is drained of the tokens of the pieces of its text. -/
theorem drain_eq_tokens {l : Lexer} (hposition : 0 ≤ l.cursor.position) :
    ∃ l', l.drain = .ok (Piece.tokens l.cursor (Piece.all l.rest)) l' ∧
      l'.next = .ok ⟨.endOfInput, "", l.cursor.walk l.rest⟩ l' := by
  induction htext : l.rest using Piece.induction generalizing l with
  | blank text hblank =>
    obtain ⟨l', hnext⟩ := next_of_blank hposition (htext ▸ hblank)
    rw [drain_of_next hnext, if_pos rfl, Piece.all_of_blank hblank, ← htext]
    exact ⟨l', rfl, next_of_endOfInput hnext rfl⟩
  | piece blanks lexeme behind hblanks hfirst hsolid ih =>
    obtain ⟨l₁, hnext, hcursor, hposition₁, hrest⟩ :=
      next_of_piece hposition htext hblanks hfirst hsolid
    obtain ⟨l', hdrain, hlast⟩ := ih hposition₁ hrest
    rw [drain_of_next hnext, if_neg (Lexeme.kind_ne_endOfInput hfirst), hdrain]
    refine ⟨l', ?_, ?_⟩
    · rw [Piece.all_append hblanks hfirst hsolid, hcursor]
      rfl
    · rw [hlast, hcursor, ← Cursor.walk_append, List.append_assoc]

/-- When the tokens of so many pieces have been read, the lexer stands right behind those pieces. -/
theorem cursor_after {l : Lexer} (hposition : 0 ≤ l.cursor.position) {n : Nat}
    (hn : n ≤ (Piece.all l.rest).length) :
    (l.after n).cursor = l.cursor.walk (Piece.front (Piece.all l.rest) n) := by
  induction htext : l.rest using Piece.induction generalizing l n with
  | blank text hblank =>
    rw [htext, Piece.all_of_blank hblank, List.length_nil, Nat.le_zero] at hn
    rw [hn]
    rfl
  | piece blanks lexeme behind hblanks hfirst hsolid ih =>
    cases n with
    | zero => rfl
    | succ n =>
      obtain ⟨l₁, hnext, hcursor, hposition₁, hrest⟩ :=
        next_of_piece hposition htext hblanks hfirst hsolid
      rw [htext, Piece.all_append hblanks hfirst hsolid, List.length_cons] at hn
      rw [after_succ hnext, ih hposition₁ (hrest ▸ by omega) hrest, hcursor,
        Piece.all_append hblanks hfirst hsolid, Piece.front_cons_succ, ← Cursor.walk_append]
      rfl

end Lexer

end LetArith
