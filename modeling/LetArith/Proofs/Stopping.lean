import LetArith.Proofs.Places
import LetArith.Proofs.Program
import LetArith.Proofs.Spans
import LetArith.Proofs.Supply
import Mathlib.Data.List.DropRight

namespace LetArith

/-- The pieces of a text leave out the blanks at its end and nothing else. -/
theorem Piece.flatMap_text_all (text : List Char) :
    (all text).flatMap Piece.text = text.rdropWhile Text.isBlank := by
  induction text using Piece.induction with
  | blank text hblank =>
    rw [all_of_blank hblank, List.rdropWhile_eq_nil_iff.2 hblank]
    rfl
  | piece blanks lexeme rest hblanks hfirst hsolid ih =>
    have hkept : (blanks ++ lexeme.text).rdropWhile Text.isBlank = blanks ++ lexeme.text := by
      rw [List.rdropWhile_eq_self_iff]
      intro hne
      have hlexeme := (Lexeme.first?_ne_nil hfirst).2
      rw [List.getLast_append_of_ne_nil hne hlexeme, hsolid _ (List.getLast_mem hlexeme)]
      exact Bool.false_ne_true
    rw [all_append hblanks hfirst hsolid, List.flatMap_cons, ih, Piece.text, ← List.append_assoc]
    exact (Text.rdropWhile_append hkept rest).symm

theorem Cursor.position_walk_rdropWhile (text : String) :
    (walk {} (text.toList.rdropWhile Text.isBlank)).position =
      text.length - (text.toList.rtakeWhile Text.isBlank).length := by
  have hparts : text.length = (text.toList.rdropWhile Text.isBlank).length +
      (text.toList.rtakeWhile Text.isBlank).length := by
    rw [← List.length_append, List.rdropWhile_append_rtakeWhile, String.length_toList]
  rw [walk_beginning]
  dsimp only
  omega

/-- A cursor stands right behind a token: the characters of its literal lead there from its start.
    Those of a number may have separators between them. -/
def Token.EndsAt (token : Token) (cursor : Cursor) : Prop :=
  ∃ text, cursor = token.start.walk text ∧
    token.literal = String.ofList
      (if token.kind = .number then Lexeme.withoutSeparators text else text)

theorem Token.EndsAt.eq_walk {token : Token} {cursor : Cursor} (h : token.EndsAt cursor)
    (hkind : token.kind ≠ .number) : cursor = token.start.walk token.literal.toList := by
  obtain ⟨text, hcursor, hliteral⟩ := h
  rw [hliteral, if_neg hkind, String.toList_ofList, hcursor]

/-- Scanning leaves the cursor right behind the token that it answers. -/
theorem Token.endsAt_scan (cursor : Cursor) (text : List Char) :
    (scan cursor text).1.EndsAt (scan cursor text).2 := by
  rcases scan_cases cursor text with ⟨-, hscan⟩ | ⟨blanks, lexeme, -, -, -, -, hscan⟩
  · rw [hscan]
    exact ⟨[], rfl, rfl⟩
  · rw [hscan]
    exact ⟨lexeme.text, Cursor.walk_append _ _ _, rfl⟩

namespace Lexer

private theorem endsAt_of_next {l l' : Lexer} {token : Token} (hposition : 0 ≤ l.cursor.position)
    (hnext : l.next = .ok token l') : token.EndsAt l'.cursor := by
  obtain ⟨cursor, hfound, rfl⟩ := next_eq_ok_iff.1 hnext
  rw [tokenAt?_eq_scan hposition, Option.some.injEq] at hfound
  have hends := Token.endsAt_scan l.cursor l.rest
  rwa [hfound] at hends

/-- Tokens that may follow one another give no reason for complaint. -/
theorem Passes.diagnostics {previous : Option Kind} {l l' : Lexer} {tokens : List Token}
    (h : Passes previous l tokens l') : l'.diagnostics = l.diagnostics := by
  have hnone : tokens.filter (·.kind = .invalid) = [] := by
    refine List.filter_eq_nil_iff.2 fun token htoken hkind => ?_
    exact Grammar.ne_invalid_of_admitted h.admitted _ (List.mem_map_of_mem htoken)
      (of_decide_eq_true hkind)
  rw [h.reads.diagnostics, hnone, List.map_nil, List.append_nil]

end Lexer

namespace Supply

open Lexer

variable {supply : Supply} {text : String}

/-- What is left behind when a parse refuses a text at the token of an index. -/
inductive Refused (supply : Supply) (text : String) : Nat → Lexer → Prop
  /-- Behind a name the token at fault was only looked at, and is left to be read. -/
  | behindName {k : Nat} {l : Lexer} (hname : (supply.token k).kind = .identifier)
      (hcursor : l.cursor = (supply.token k).start.walk (supply.token k).literal.toList)
      (hnext : ∃ l', l.next = .ok (supply.token (k + 1)) l')
      (hdiagnostics : l.diagnostics = []) : supply.Refused text (k + 1) l
  /-- Everywhere else the token at fault was taken, and the one behind it comes next. -/
  | taken {n : Nat} {l : Lexer}
      (hother : ∀ k, n = k + 1 → (supply.token k).kind ≠ .identifier)
      (hcursor : l.cursor = ((Lexer.ofString text).after (n + 1)).cursor)
      (hends : (supply.token n).EndsAt l.cursor)
      (hnext : ∃ l', l.next = .ok (supply.token (n + 1)) l')
      (hdiagnostics : l.diagnostics =
        if (supply.token n).kind = .invalid then [Event.complaint (supply.token n)] else []) :
      supply.Refused text n l

namespace Of

/-- What is read first from a text is what its supply holds first. -/
theorem getElem_eq_token (h : supply.Of text) {tokens : List Token} {l : Lexer}
    (hreads : Reads (Lexer.ofString text) tokens l) {n : Nat} (hn : n < tokens.length) :
    tokens[n] = supply.token n :=
  (EStateM.Result.ok.inj ((hreads.next_after hn).symm.trans (h.next n))).1

/-- Behind a reading from a text the token that comes next is the one of the supply. -/
theorem next_of_reads (h : supply.Of text) {tokens : List Token} {l : Lexer}
    (hreads : Reads (Lexer.ofString text) tokens l) :
    ∃ l', l.next = .ok (supply.token tokens.length) l' ∧
      Alike ((Lexer.ofString text).after (tokens.length + 1)) l' :=
  hreads.alike_after.next (h.next tokens.length)

/-- No more tokens than there are come before the one for the end of input. -/
theorem length_le_of_inside (h : supply.Of text) {tokens : List Token} {l : Lexer}
    (hreads : Reads (Lexer.ofString text) tokens l)
    (hinside : ∀ token ∈ tokens, token.kind ≠ .endOfInput) :
    tokens.length ≤ supply.tokens.length := by
  by_contra hlength
  have hlt : supply.tokens.length < tokens.length := Nat.lt_of_not_le hlength
  apply hinside _ (List.getElem_mem hlt)
  rw [h.getElem_eq_token hreads hlt, h.kind_token_iff]

/-- The kind before the next token is the one of the token before it in the supply. -/
theorem lastOf_eq_some_iff (h : supply.Of text) {tokens : List Token} {l : Lexer}
    (hreads : Reads (Lexer.ofString text) tokens l) (kind : Kind) :
    Grammar.lastOf none (tokens.map Token.kind) = some kind ↔
      ∃ k, tokens.length = k + 1 ∧ (supply.token k).kind = kind := by
  induction tokens using List.reverseRecOn with
  | nil => simp
  | append_singleton before token _ =>
    have htoken := h.getElem_eq_token hreads (n := before.length) (by simp)
    rw [List.getElem_concat_length rfl] at htoken
    rw [List.map_append, Grammar.lastOf_append, htoken]
    simp

theorem tokens_eq (h : supply.Of text) :
    supply.tokens = Piece.tokens {} (Piece.all text.toList) :=
  Except.ok.inj (h.tokenize.symm.trans (LetArith.tokens_eq text).1)

/-- When so many tokens have been taken, the lexer stands right behind the last of them. -/
theorem endsAt_after (h : supply.Of text) (n : Nat) :
    (supply.token n).EndsAt ((Lexer.ofString text).after (n + 1)).cursor := by
  have hposition : 0 ≤ ((Lexer.ofString text).after n).cursor.position := by
    induction n with
    | zero => exact Int.le_refl 0
    | succ n ih => exact Int.le_trans ih (position_le_of_next (h.next n))
  exact endsAt_of_next hposition (h.next n)

/-- Behind all tokens of a text only blanks follow. -/
theorem cursor_after_tokens (h : supply.Of text) :
    ((Lexer.ofString text).after supply.tokens.length).cursor =
      Cursor.walk {} (text.toList.rdropWhile Text.isBlank) := by
  rw [h.tokens_eq, Piece.length_tokens, ← Piece.flatMap_text_all]
  have hcursor := Lexer.cursor_after (l := Lexer.ofString text) (Int.le_refl 0) (Nat.le_refl _)
  rwa [Piece.front, List.take_length] at hcursor

/-- A parse that fails leaves behind what its offence tells. -/
theorem refused_of_offends (h : supply.Of text) {fault : Fault} {l : Lexer}
    (hoffends : Offends none (Lexer.ofString text) fault l) :
    ∃ error n, fault = .syntactic error ∧ n ≤ supply.tokens.length ∧
      error.token = some (supply.token n) ∧ supply.Refused text n l := by
  cases hoffends with
  | @intro tokens wrong l₁ l₂ _ hpasses hwrong hfollows hleft =>
    obtain ⟨l', hnext, halike⟩ := h.next_of_reads hpasses.reads
    obtain ⟨rfl, rfl⟩ := EStateM.Result.ok.inj (hwrong.symm.trans hnext)
    have hlength := h.length_le_of_inside hpasses.reads hpasses.inside
    have hdiagnostics : l₁.diagnostics = [] := hpasses.diagnostics
    refine ⟨_, tokens.length, rfl, hlength, rfl, ?_⟩
    by_cases hname : Grammar.lastOf none (tokens.map Token.kind) = some .identifier
    · rw [if_pos hname] at hleft
      obtain ⟨k, hk, hkind⟩ := (h.lastOf_eq_some_iff hpasses.reads _).1 hname
      have hcursor := hpasses.reads.alike_after.cursor
      have hends := (h.endsAt_after k).eq_walk (by rw [hkind]; decide)
      rw [hk] at hnext hcursor ⊢
      exact hleft ▸ .behindName hkind (hcursor.symm.trans hends) ⟨_, hnext⟩ hdiagnostics
    · rw [if_neg hname] at hleft
      obtain ⟨l'', hnext', -⟩ := halike.next (h.next (tokens.length + 1))
      have hends := h.endsAt_after tokens.length
      rw [halike.cursor] at hends
      refine hleft ▸ .taken (fun k hk hkind => ?_) halike.cursor.symm hends ⟨l'', hnext'⟩ ?_
      · exact hname ((h.lastOf_eq_some_iff hpasses.reads _).2 ⟨k, hk, hkind⟩)
      · rw [diagnostics_of_next hnext, hdiagnostics, List.nil_append]
        split <;> simp [*]

/-- A row of tokens up to the one for the end of input holds all tokens of its text. -/
theorem length_eq_of_reads (h : supply.Of text) {tokens : List Token} {last : Token}
    {l l' : Lexer} (hreads : Reads (Lexer.ofString text) tokens l)
    (hinside : ∀ token ∈ tokens, token.kind ≠ .endOfInput) (hlast : l.next = .ok last l')
    (hend : last.kind = .endOfInput) : tokens.length = supply.tokens.length := by
  apply Nat.le_antisymm (h.length_le_of_inside hreads hinside)
  obtain ⟨_, hnext, -⟩ := h.next_of_reads hreads
  obtain ⟨rfl, -⟩ := EStateM.Result.ok.inj (hlast.symm.trans hnext)
  exact (h.kind_token_iff _).1 hend

/-- Where a row of tokens that may follow one another ends with the text, only blanks are left. -/
theorem left_of_passes (h : supply.Of text) {tokens : List Token} {last : Token} {l l' : Lexer}
    (hpasses : Passes none (Lexer.ofString text) tokens l) (hlast : l.next = .ok last l')
    (hend : last.kind = .endOfInput) :
    l.cursor = Cursor.walk {} (text.toList.rdropWhile Text.isBlank) ∧ l.diagnostics = [] := by
  have hlength := h.length_eq_of_reads hpasses.reads hpasses.inside hlast hend
  have hcursor := hpasses.reads.alike_after.cursor
  rw [hlength, h.cursor_after_tokens] at hcursor
  exact ⟨hcursor.symm, hpasses.diagnostics⟩

end Of

end Supply

/-- What a parse leaves of a text. If the text is refused, it is so at a token of its supply, and
    the lexer stands right behind that token, with a complaint if no grammar admits the token; but
    where a sign of assignment is missing behind a name, it stands at the end of the name, with no
    complaint, and the token is still to be read. If the text is a program, the lexer stands before
    the blanks at the end. -/
theorem lexer_left_by_parse (text : String) :
    ∃ supply : Supply, supply.Of text ∧
      match Parser.program (Lexer.ofString text) with
      | .error fault l =>
        ∃ error n, fault = .syntactic error ∧ n ≤ supply.tokens.length ∧
          error.token = some (supply.token n) ∧ supply.Refused text n l
      | .ok _ l =>
        l.cursor = Cursor.walk {} (text.toList.rdropWhile Text.isBlank) ∧
          l.cursor.position = text.length - (text.toList.rtakeWhile Text.isBlank).length ∧
          l.diagnostics = [] := by
  obtain ⟨supply, h⟩ := Supply.exists_of text
  refine ⟨supply, h, ?_⟩
  have hwithin := Lexer.within_ofString text
  obtain ⟨token, behind, htoken⟩ := Lexer.exists_next hwithin
  simp only [Parser.program, bind, EStateM.bind]
  rcases Parser.statements_cases none hwithin rfl htoken (by simp) with
    ⟨phrases, last, l, behind', hpasses, hlast, hend, hstatements⟩ |
    ⟨fault, l, hstatements, hoffends⟩
  · obtain ⟨hcursor, hdiagnostics⟩ := h.left_of_passes hpasses hlast hend
    have halike := Lexer.Alike.note l (.finished (phrases.map Phrase.node).length) rfl
    have hplace := halike.cursor.symm.trans hcursor
    simp only [hstatements]
    refine ⟨hplace, ?_, halike.diagnostics.symm.trans hdiagnostics⟩
    exact (congrArg Cursor.position hplace).trans (Cursor.position_walk_rdropWhile text)
  · rw [hstatements]
    exact h.refused_of_offends hoffends

/-- A stray character in place of a sign of assignment is left to be read, with no complaint. -/
example :
    let l := Step.lexer (Parser.program (Lexer.ofString "let x ?"))
    l.cursor = ⟨5, 1, 6⟩ ∧ l.diagnostics = [] := by
  decide +kernel

end LetArith
