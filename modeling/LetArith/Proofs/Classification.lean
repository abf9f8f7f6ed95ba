import LetArith.Proofs.Classes
import LetArith.Proofs.Spans

namespace LetArith

open Words

/-- A row of letters in a text that goes on at neither of its ends. -/
structure Text.Run (before row behind : List Char) : Prop where
  ne_nil : row ≠ []
  letters : ∀ c ∈ row, Text.isLetter c
  left : ∀ c ∈ before.getLast?, Text.isLetter c = false
  right : ∀ c ∈ behind.head?, Text.isLetter c = false

/-- What a token is, by the part of the text that it was read from and the parts around it. -/
structure Token.Classified (before raw behind : List Char) (token : Token) : Prop where
  /-- No word of any kind lies there that goes on further. -/
  longest : Longest {word | ∃ kind : Kind, word ∈ kind.lexemes} raw (raw ++ behind)
  kind_iff : ∀ kind : Kind, token.kind = kind ↔ raw ∈ kind.lexemes
  keyword_iff : token.kind = .letKeyword ↔ Text.Run before raw behind ∧ raw = "let".toList
  identifier_iff : token.kind = .identifier ↔ Text.Run before raw behind ∧ raw ≠ "let".toList
  number_iff : token.kind = .number ↔ ∃ c ∈ raw.head?, Text.isDigit c
  number : token.kind = .number → Longest Numeral.numeral raw (raw ++ behind) ∧
    token.literal = String.ofList (raw.filter (· != '_'))
  kind_notMem_reserved : token.kind ∉ Kind.reserved
  literal_ne_empty : token.literal ≠ ""

/-- Behind the lexeme of a piece the text goes on with the next piece. -/
theorem Piece.first?_append_text (text : List Char) {n : Nat} (hn : n + 1 < (all text).length) :
    ∃ behind, Lexeme.first? ((all text)[n].lexeme.text ++ ((all text)[n + 1].text ++ behind)) =
      some (all text)[n].lexeme := by
  obtain ⟨-, -, rest, htext, hfirst⟩ := exists_behind text (Nat.lt_of_succ_lt hn)
  obtain ⟨-, -, behind, htext', -⟩ := exists_behind text hn
  refine ⟨behind, ?_⟩
  have hrest : rest = (all text)[n + 1].text ++ behind := by
    have heq := htext.symm.trans htext'
    rw [front_succ (Nat.lt_of_succ_lt hn)] at heq
    simpa [Piece.text] using heq
  rwa [← hrest]

/-- Left of a piece that begins with a letter there is no letter. -/
theorem Piece.isLetter_getLast?_eq_false (text : List Char) {n : Nat} (hn : n < (all text).length)
    (hhead : ∃ c ∈ (all text)[n].lexeme.text.head?, Text.isLetter c) :
    ∀ d ∈ (front (all text) n ++ (all text)[n].blanks).getLast?, Text.isLetter d = false := by
  obtain ⟨hblanks, -⟩ := exists_behind text hn
  intro d hd
  rw [Bool.eq_false_iff]
  intro hletter
  cases hlast : (all text)[n].blanks.getLast? with
  | some blank =>
    rw [List.getLast?_append, hlast] at hd
    obtain rfl := Option.some.inj hd
    have hblank := hblanks _ (List.mem_of_getLast? hlast)
    rw [Text.isBlank_eq_false_of_isLetter hletter] at hblank
    cases hblank
  | none =>
    rw [List.getLast?_eq_none_iff] at hlast
    rw [hlast, List.append_nil] at hd
    cases n with
    | zero => cases hd
    | succ n =>
      -- The lexeme before ends with that letter, so the next one cannot begin with another.
      obtain ⟨behind, hfirst⟩ := first?_append_text text hn
      have hmem : d ∈ (all text)[n].lexeme.text := by
        rw [front_succ (Nat.lt_of_succ_lt hn), Piece.text, ← List.append_assoc,
          List.getLast?_append_of_ne_nil _ (Lexeme.first?_ne_nil hfirst).2] at hd
        exact List.mem_of_getLast? hd
      obtain ⟨c, hc, hcletter⟩ := hhead
      have hnone := Lexeme.isLetter_head?_eq_false hfirst hmem hletter c
      rw [Piece.text, hlast, List.nil_append, List.head?_append, hc] at hnone
      rw [hnone rfl] at hcletter
      cases hcletter

/-- A lexeme is classified by its kind, if no letter comes before a lexeme that begins with one. -/
theorem Lexeme.classified {before behind : List Char} {lexeme : Lexeme} (start : Cursor)
    (hfirst : first? (lexeme.text ++ behind) = some lexeme) (hsolid : Text.Solid lexeme.text)
    (hleft : (∃ c ∈ lexeme.text.head?, Text.isLetter c) →
      ∀ d ∈ before.getLast?, Text.isLetter d = false) :
    Token.Classified before lexeme.text behind ⟨lexeme.kind, lexeme.literal, start⟩ := by
  have hmem := text_mem_lexemes hfirst hsolid
  have hkind (kind : Kind) : lexeme.kind = kind ↔ lexeme.text ∈ kind.lexemes := by
    constructor
    · rintro rfl
      exact hmem
    · intro hother
      have heq := (first?_of_mem_lexemes hmem).symm.trans (first?_of_mem_lexemes hother)
      exact congrArg Lexeme.kind (Option.some.inj heq)
  have hrun (hletters : ∀ c ∈ lexeme.text, Text.isLetter c) :
      Text.Run before lexeme.text behind := by
    have hne := (first?_ne_nil hfirst).2
    refine ⟨hne, hletters, hleft ⟨_, List.head_mem_head? hne, hletters _ (List.head_mem hne)⟩, ?_⟩
    exact isLetter_head?_eq_false hfirst (List.head_mem hne) (hletters _ (List.head_mem hne))
  have hlet : "let".toList.all Text.isLetter := by decide +kernel
  refine ⟨longest_text hfirst hsolid, hkind, ?keyword, ?identifier, ?head, ?number, ?reserved,
    ?literal⟩
  case keyword =>
    rw [hkind]
    constructor
    · intro hword
      exact ⟨hrun (List.all_eq_true.1 (hword ▸ hlet)), hword⟩
    · exact And.right
  case identifier =>
    rw [hkind]
    constructor
    · rintro ⟨-, hletters, hother⟩
      exact ⟨hrun hletters, hother⟩
    · rintro ⟨hword, hother⟩
      exact ⟨hword.ne_nil, hword.letters, hother⟩
  case head =>
    constructor
    · intro hnumber
      obtain ⟨c, rest, htext, hdigit⟩ :=
        Numeral.exists_cons_of_mem_numeral ((hkind .number).1 hnumber)
      exact ⟨c, by rw [htext]; rfl, hdigit⟩
    · rintro ⟨c, hc, hdigit⟩
      exact kind_eq_number hfirst hc hdigit
  case number =>
    intro hnumber
    have hlongest := longest_text hfirst hsolid
    refine ⟨⟨(hkind .number).1 hnumber, hlongest.isPrefix, fun other hother => ?_⟩, ?_⟩
    · exact hlongest.longest other ⟨.number, hother⟩
    · rw [literal, if_pos hnumber]
      rfl
  case reserved =>
    have hkinds : ∀ kind ∈ kinds, kind ∉ Kind.reserved := by decide
    exact hkinds _ (kind_mem_kinds hfirst)
  case literal => exact literal_ne_empty hfirst hsolid

/-- Every token of a text is the longest lexeme that begins where it begins, and its kind is the
    only one of which that lexeme is a word. -/
theorem tokens_classified (text : String) :
    ∃ tokens, tokenize text = .ok tokens ∧ ∀ (i : Nat) (hi : i < tokens.length),
      ∃ before raw behind, text.toList = before ++ (raw ++ behind) ∧
        tokens[i].start.position = before.length ∧
        Lexer.reached text (i + 1) = (before ++ raw).length ∧
        Token.Classified before raw behind tokens[i] := by
  refine ⟨_, (tokens_eq text).1, fun i hi => ?_⟩
  have hi' : i < (Piece.all text.toList).length := by simpa using hi
  obtain ⟨-, hsolid, behind, htext, hfirst⟩ := Piece.exists_behind text.toList hi'
  refine ⟨_, (Piece.all text.toList)[i].lexeme.text, behind, ?_, Piece.start_eq text hi, ?_, ?_⟩
  · rw [List.append_assoc]
    exact htext
  · rw [Lexer.reached_eq (Nat.succ_le_of_lt hi'), Piece.front_succ hi', Piece.text,
      List.append_assoc]
  · rw [Piece.getElem_tokens]
    exact Lexeme.classified _ hfirst hsolid (Piece.isLetter_getLast?_eq_false text.toList hi')

example : (tokenize "1_2.5_.3").map (fun tokens => tokens.map Token.listing) =
    .ok ["Token(NUMBER, 12.5)", "Token(INVALID, _)", "Token(INVALID, .)", "Token(NUMBER, 3)"] := by
  decide +kernel

end LetArith
