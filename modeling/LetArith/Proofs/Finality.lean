import LetArith.Proofs.Boundary
import LetArith.Proofs.RoundTrip

namespace LetArith

open Grammar

namespace Grammar

/-- In a row there is one first token that cannot follow. -/
theorem offence_unique {previous : Option Kind} {before before' after after' : List Token}
    {wrong wrong' : Token} (happend : before ++ wrong :: after = before' ++ wrong' :: after')
    (hadmitted : Admitted previous (before.map Token.kind))
    (hfollows : follows (lastOf previous (before.map Token.kind)) wrong.kind = false)
    (hadmitted' : Admitted previous (before'.map Token.kind))
    (hfollows' : follows (lastOf previous (before'.map Token.kind)) wrong'.kind = false) :
    before = before' ∧ wrong = wrong' := by
  induction before generalizing previous before' with
  | nil =>
    cases before' with
    | nil => exact ⟨rfl, (List.cons.inj happend).1⟩
    | cons token before' =>
      obtain ⟨rfl, -⟩ := List.cons.inj happend
      have hfollows'' := hadmitted'.1
      rw [List.map_nil, lastOf_nil] at hfollows
      rw [hfollows] at hfollows''
      cases hfollows''
  | cons token before ih =>
    cases before' with
    | nil =>
      obtain ⟨rfl, -⟩ := List.cons.inj happend
      have hfollows'' := hadmitted.1
      rw [List.map_nil, lastOf_nil] at hfollows'
      rw [hfollows'] at hfollows''
      cases hfollows''
    | cons token' before' =>
      obtain ⟨rfl, hbehind⟩ := List.cons.inj happend
      simp only [List.map_cons, lastOf_cons] at hadmitted hfollows hadmitted' hfollows'
      obtain ⟨rfl, rfl⟩ := ih hbehind hadmitted.2 hfollows hadmitted'.2 hfollows'
      exact ⟨rfl, rfl⟩

/-- The sort of an error tells whether the end of input is what cannot follow. -/
theorem errorKind_eq_unexpectedEnd_iff (previous : Option Kind) (kind : Kind) :
    errorKind previous kind = .unexpectedEnd ↔ kind = .endOfInput := by
  cases kind <;> cases hbegins : beginsStatement previous <;> simp [errorKind, hbegins]

/-- The kinds of token that complete a program behind a kind of token. -/
def missing : Option Kind → List Kind
  | some .letKeyword => [.identifier, .assign, .number]
  | some .identifier => [.assign, .number]
  | some .assign | some .plus | some .minus | some .times | some .divide => [.number]
  | _ => []

/-- A text of such tokens. -/
def completion : Option Kind → String
  | some .letKeyword => "x = 1"
  | some .identifier => "= 1"
  | some .assign | some .plus | some .minus | some .times | some .divide => "1"
  | _ => ""

private theorem map_kind_completion (previous : Option Kind) :
    (Piece.all (completion previous).toList).map (fun piece => piece.lexeme.kind) =
      missing previous := by
  match previous with
  | none => decide +kernel
  | some kind => cases kind <;> decide +kernel

/-- Wherever a program can go on, the missing kinds complete it. -/
theorem missing_mem_rest {previous : Option Kind} (hrest : ∃ word, word ∈ rest previous)
    (hend : previous ≠ some .endOfInput) : missing previous ++ [.endOfInput] ∈ rest previous := by
  have hlast : [] ∈ rest (some .endOfInput) := Language.nil_mem_one
  match previous with
  | none | some .number | some .letKeyword | some .identifier | some .assign | some .plus
  | some .minus | some .times | some .divide => simp [missing, cons_mem_rest, follows, hlast]
  | some .endOfInput => exact absurd rfl hend
  | some .string | some .integerType | some .stringType | some .floatType | some .booleanType
  | some .invalid =>
    obtain ⟨word, hword⟩ := hrest
    cases hword

end Grammar

theorem Piece.kind_ne_endOfInput (cursor : Cursor) (text : List Char) :
    ∀ token ∈ tokens cursor (all text), token.kind ≠ .endOfInput := by
  induction text using Piece.induction generalizing cursor with
  | blank text hblank => simp [all_of_blank hblank, tokens]
  | piece blanks lexeme rest hblanks hfirst hsolid ih =>
    rw [all_append hblanks hfirst hsolid, tokens]
    exact List.forall_mem_cons.2 ⟨Lexeme.kind_ne_endOfInput hfirst, ih _⟩

/-- A text whose tokens have one that cannot follow is refused there. -/
theorem parse_of_offence {text : String} {before after : List Token} {wrong : Token}
    (htokens : tokensToEnd text = .ok (before ++ wrong :: after))
    (hadmitted : Admitted none (before.map Token.kind))
    (hfollows : follows (lastOf none (before.map Token.kind)) wrong.kind = false) :
    parse text = .error (.syntactic (offence (lastOf none (before.map Token.kind)) wrong)) := by
  obtain ⟨tokens, last, -, htokens', hend, hcases⟩ := parse_cases text
  have hsplit := Except.ok.inj (htokens.symm.trans htokens')
  rcases hcases with ⟨phrases, rfl, -⟩ |
    ⟨before', wrong', after', hsplit', hadmitted', hfollows', hparse⟩
  · have hprogram := Phrase.map_kind_mem_program_iff.2 ⟨phrases, rfl⟩
    have hword := mem_program_iff.1 hprogram
    rw [← hend, ← List.map_singleton, ← List.map_append, ← hsplit, List.map_append] at hword
    have hwrong := (cons_mem_rest.1 (append_mem_rest.1 hword).2).1
    rw [hfollows] at hwrong
    cases hwrong
  · obtain ⟨rfl, rfl⟩ :=
      offence_unique (hsplit.trans hsplit') hadmitted hfollows hadmitted' hfollows'
    exact hparse

/-- The tokens of a text with a blank behind it and more are its own, and then others of the kinds of
    what follows. -/
theorem exists_tokens_append (text : String) {blanks : List Char} (hblanks : Text.Blank blanks)
    (hne : blanks ≠ []) (more : String) :
    ∃ tokens others last, tokenize text = .ok tokens ∧
      tokenize (text ++ String.ofList blanks ++ more) = .ok (tokens ++ others) ∧
      tokensToEnd (text ++ String.ofList blanks ++ more) = .ok (tokens ++ others ++ [last]) ∧
      last.kind = .endOfInput ∧
      others.map Token.kind = (Piece.all more.toList).map fun piece => piece.lexeme.kind := by
  have hhead : ∀ c ∈ (blanks ++ more.toList).head?, Text.isBlank c := by
    obtain ⟨c, others, rfl⟩ := List.exists_cons_of_ne_nil hne
    rintro _ ⟨⟩
    exact hblanks c List.mem_cons_self
  have htokens := tokens_eq (text ++ String.ofList blanks ++ more)
  rw [String.toList_append, String.toList_append, String.toList_ofList, List.append_assoc,
    Piece.tokens_all_append _ _ hhead, Piece.tokens_all_blanks _ hblanks] at htokens
  exact ⟨_, _, _, (tokens_eq text).1, htokens.1, htokens.2, rfl, Piece.map_kind_tokens _ _⟩

/-- Where a text is refused: at one of its tokens, or at its end behind all of them. -/
theorem exists_offence_of_parse {text : String} {fault : Fault} (hparse : parse text = .error fault) :
    ∃ tokens before wrong, tokenize text = .ok tokens ∧
      Admitted none (before.map Token.kind) ∧
      follows (lastOf none (before.map Token.kind)) wrong.kind = false ∧
      fault = .syntactic (offence (lastOf none (before.map Token.kind)) wrong) ∧
      ((∃ after, tokens = before ++ wrong :: after) ∨
        tokens = before ∧ wrong.kind = .endOfInput) := by
  obtain ⟨tokens, last, htokenize, -, hend, hcases⟩ := parse_cases text
  rcases hcases with ⟨phrases, -, haccepted⟩ |
    ⟨before, wrong, after, hsplit, hadmitted, hfollows, hrefused⟩
  · rw [haccepted] at hparse
    cases hparse
  · rw [hrefused] at hparse
    refine ⟨tokens, before, wrong, htokenize, hadmitted, hfollows, (Except.error.inj hparse).symm, ?_⟩
    rcases List.eq_nil_or_concat' after with rfl | ⟨others, final, rfl⟩
    · obtain ⟨rfl, hlast⟩ := List.append_inj' hsplit rfl
      obtain rfl := (List.cons.inj hlast).1
      exact .inr ⟨rfl, hend⟩
    · rw [← List.cons_append, ← List.append_assoc] at hsplit
      exact .inl ⟨others, (List.append_inj' hsplit rfl).1⟩

/-- An error at a token of a text stays its error when the text goes on behind a blank. -/
theorem parse_append_of_error {text : String} {error : ParseError}
    (hparse : parse text = .error (.syntactic error)) (hkind : error.kind ≠ .unexpectedEnd)
    {blanks : List Char} (hblanks : Text.Blank blanks) (hne : blanks ≠ []) (more : String) :
    parse (text ++ String.ofList blanks ++ more) = .error (.syntactic error) := by
  obtain ⟨tokens, before, wrong, htokenize, hadmitted, hfollows, hfault, hplace⟩ :=
    exists_offence_of_parse hparse
  obtain rfl := Fault.syntactic.inj hfault
  obtain ⟨tokens', others, last, htokenize', -, htokens, -⟩ :=
    exists_tokens_append text hblanks hne more
  obtain rfl := Except.ok.inj (htokenize'.symm.trans htokenize)
  rcases hplace with ⟨after, rfl⟩ | ⟨-, hend⟩
  · rw [List.append_assoc, List.append_assoc, List.cons_append] at htokens
    exact parse_of_offence htokens hadmitted hfollows
  · exact absurd ((errorKind_eq_unexpectedEnd_iff _ _).2 hend) hkind

/-- A text that ends too early is completed by what is missing at its end. -/
theorem exists_parse_append_of_unexpectedEnd {text : String} {error : ParseError}
    (hparse : parse text = .error (.syntactic error)) (hkind : error.kind = .unexpectedEnd) :
    ∃ (more : String) (nodes : List Node), parse (text ++ " " ++ more) = .ok nodes := by
  obtain ⟨tokens, before, wrong, htokenize, hadmitted, -, hfault, hplace⟩ :=
    exists_offence_of_parse hparse
  obtain rfl := Fault.syntactic.inj hfault
  have hinside : ∀ token ∈ tokens, token.kind ≠ .endOfInput := by
    rw [← Except.ok.inj ((tokens_eq text).1.symm.trans htokenize)]
    exact Piece.kind_ne_endOfInput {} text.toList
  have hwrong := (errorKind_eq_unexpectedEnd_iff _ _).1 hkind
  obtain rfl : tokens = before := by
    rcases hplace with ⟨after, rfl⟩ | ⟨hall, -⟩
    · exact absurd hwrong (hinside wrong (by simp))
    · exact hall
  let previous := lastOf none (tokens.map Token.kind)
  have hrest : ∃ word, word ∈ rest previous :=
    exists_mem_rest_lastOf ⟨_, endOfInput_mem_rest_none⟩ hadmitted
  have hprevious : previous ≠ some .endOfInput := by
    intro hend
    have hlast : (tokens.map Token.kind).getLast? = some .endOfInput := by
      simpa [previous, lastOf] using hend
    obtain ⟨token, htoken, htokenKind⟩ := List.mem_map.1 (List.mem_of_getLast? hlast)
    exact hinside token htoken htokenKind
  obtain ⟨tokens', others, last, htokenize', hboth, -, -, hothers⟩ :=
    exists_tokens_append text Text.blank_space (by simp) (completion previous)
  obtain rfl := Except.ok.inj (htokenize'.symm.trans htokenize)
  have hprogram : (tokens' ++ others).map Token.kind ∈ program := by
    rw [mem_program_iff, List.map_append, hothers, map_kind_completion, List.append_assoc]
    exact append_mem_rest.2 ⟨hadmitted, missing_mem_rest hrest hprevious⟩
  obtain ⟨phrases, hphrases⟩ := Phrase.map_kind_mem_program_iff.1 hprogram
  rw [← hphrases] at hboth
  exact ⟨completion previous, _, parse_of_row hboth⟩

/-- An error at another token than the one for the end of input stays the error of every text that
    goes on behind a blank, and an error at the end of input is one that some such text does not
    have: what is missing can be supplied. -/
theorem parse_error_is_final (text : String) {fault : Fault} (hparse : parse text = .error fault) :
    ∃ error, fault = .syntactic error ∧
      (error.kind ≠ .unexpectedEnd → ∀ (blanks : List Char) (more : String), Text.Blank blanks →
        blanks ≠ [] → parse (text ++ String.ofList blanks ++ more) = .error (.syntactic error)) ∧
      (error.kind = .unexpectedEnd ↔
        ∃ (more : String) (nodes : List Node), parse (text ++ " " ++ more) = .ok nodes) := by
  obtain ⟨-, before, wrong, -, -, -, rfl, -⟩ := exists_offence_of_parse hparse
  refine ⟨_, rfl, fun hkind blanks more hblanks hne => ?_, ?_, ?_⟩
  · exact parse_append_of_error hparse hkind hblanks hne more
  · exact exists_parse_append_of_unexpectedEnd hparse
  · rintro ⟨more, nodes, haccepted⟩
    by_contra hkind
    have hrefused : parse (text ++ " " ++ more) = .error _ :=
      parse_append_of_error hparse hkind Text.blank_space (by simp) more
    rw [haccepted] at hrefused
    cases hrefused

/-- The text `let x = +` is refused at its operator, and so is every text that goes on behind a
    blank. -/
theorem parse_error_is_final_at_operator :
    parse "let x = +" = .error (.syntactic (offence (some .assign) ⟨.plus, "+", ⟨8, 1, 9⟩⟩)) ∧
      ∃ error, Fault.syntactic (offence (some .assign) ⟨.plus, "+", ⟨8, 1, 9⟩⟩) =
          .syntactic error ∧
        (error.kind ≠ .unexpectedEnd → ∀ (blanks : List Char) (more : String), Text.Blank blanks →
          blanks ≠ [] →
          parse ("let x = +" ++ String.ofList blanks ++ more) = .error (.syntactic error)) ∧
        (error.kind = .unexpectedEnd ↔
          ∃ (more : String) (nodes : List Node), parse ("let x = +" ++ " " ++ more) = .ok nodes) := by
  have hparse : parse "let x = +" =
      .error (.syntactic (offence (some .assign) ⟨.plus, "+", ⟨8, 1, 9⟩⟩)) := by
    decide +kernel
  exact ⟨hparse, parse_error_is_final "let x = +" hparse⟩

end LetArith
