import LetArith.Proofs.Program
import Mathlib.Order.Bounds.Basic

namespace LetArith

open Grammar Lexer

/-- The tokens of a text, and what parsing makes of them: the bindings of the row of phrases that
    they are, or the error of the first token that cannot follow the tokens before it. -/
theorem parse_cases (text : String) :
    ∃ tokens last, tokenize text = .ok tokens ∧ tokensToEnd text = .ok (tokens ++ [last]) ∧
      last.kind = .endOfInput ∧
      ((∃ phrases, Phrase.row phrases = tokens ∧ parse text = .ok (phrases.map Phrase.node)) ∨
        ∃ before wrong after, tokens ++ [last] = before ++ wrong :: after ∧
          Admitted none (before.map Token.kind) ∧
          follows (lastOf none (before.map Token.kind)) wrong.kind = false ∧
          parse text =
            .error (.syntactic (offence (lastOf none (before.map Token.kind)) wrong))) := by
  have hwithin := within_ofString text
  obtain ⟨tokens, last, l₁, l₂, hdrain, hreads, hlast, hend, hinside⟩ := exists_drain hwithin
  obtain ⟨htokenize, htokensToEnd⟩ := tokens_of_drain hdrain (next_of_endOfInput hlast hend)
  refine ⟨tokens, last, htokenize, htokensToEnd, hend, ?_⟩
  obtain ⟨token, behind, htoken⟩ := exists_next hwithin
  rcases Parser.statements_cases none hwithin rfl htoken (by simp) with
    ⟨phrases, last', l', behind', hpasses, hlast', hend', hstatements⟩ |
    ⟨fault, l', hstatements, hoffends⟩
  · refine .inl ⟨phrases, ?_, ?_⟩
    · rcases Nat.le_total (Phrase.row phrases).length tokens.length with hlength | hlength
      · exact hpasses.reads.eq_of_length_le hlast' hend' hreads hinside hlength
      · exact (hreads.eq_of_length_le hlast hend hpasses.reads hpasses.inside hlength).symm
    · simp only [parse, Parser.program, bind, EStateM.bind, hstatements]
      rfl
  · right
    cases hoffends with
    | @intro before wrong m₁ m₂ _ hpasses hwrong hfollows hleft =>
      -- The offence lies within the tokens: before it there is none for the end of input.
      have hlength : before.length ≤ tokens.length := by
        by_contra hnot
        have heq := hreads.eq_of_length_le hlast hend hpasses.reads hpasses.inside (by omega)
        simp [heq] at hnot
      obtain ⟨after, hafter, hrest⟩ :=
        (hpasses.reads.snoc hwrong).split (.refl _) (hreads.snoc hlast) (by simpa using hlength)
      refine ⟨before, wrong, after, by simpa using hafter, hpasses.admitted, hfollows, ?_⟩
      simp only [parse, Parser.program, bind, EStateM.bind, hstatements]
      rfl

theorem Phrase.filter_row (phrases : List Phrase) :
    (Phrase.row phrases).filter (fun token => token.kind = .letKeyword) =
      phrases.map Phrase.keyword := by
  have hchain (links : List Link) :
      (Link.chain links).filter (fun token => token.kind = .letKeyword) = [] := by
    rw [List.filter_eq_nil_iff]
    intro token htoken
    obtain ⟨link, -, hlink⟩ := List.mem_flatMap.1 htoken
    have hoperator := link.operator?_kind
    simp only [Link.tokens, List.mem_cons, List.not_mem_nil, or_false] at hlink
    rcases hlink with rfl | rfl
    · intro hkind
      rw [of_decide_eq_true hkind] at hoperator
      cases hoperator
    · simp [link.operand_kind]
  induction phrases with
  | nil => rfl
  | cons phrase phrases ih =>
    simp only [Phrase.row] at ih
    simp [Phrase.row, Phrase.tokens, phrase.keyword_kind, phrase.name_kind, phrase.sign_kind,
      phrase.first_kind, hchain, ih]

/-- Parsing accepts exactly the texts whose kinds of token form a program, and answers the bindings
    of the only row of phrases that the tokens are: one binding for each keyword in the order of the
    text, with the name behind the keyword and the tree of its chain in two layers. -/
theorem parse_eq_layered (text : String) :
    ∃ tokens, tokenize text = .ok tokens ∧
      ((∃ nodes, parse text = .ok nodes) ↔ tokens.map Token.kind ∈ Grammar.program) ∧
      ∀ nodes, parse text = .ok nodes ↔
        ∃ phrases, Phrase.row phrases = tokens ∧
          phrases.map Phrase.keyword = tokens.filter (fun token => token.kind = .letKeyword) ∧
          phrases.map Phrase.node = nodes := by
  obtain ⟨tokens, last, htokenize, -, hend, hcases⟩ := parse_cases text
  refine ⟨tokens, htokenize, ?_⟩
  rcases hcases with ⟨phrases, rfl, hparse⟩ |
    ⟨before, wrong, after, htokens, hadmitted, hfollows, hparse⟩
  · refine ⟨⟨fun _ => Phrase.map_kind_mem_program_iff.2 ⟨phrases, rfl⟩, fun _ => ⟨_, hparse⟩⟩, ?_⟩
    intro nodes
    rw [hparse, Except.ok.injEq]
    constructor
    · intro hnodes
      exact ⟨phrases, rfl, (Phrase.filter_row phrases).symm, hnodes⟩
    · rintro ⟨phrases', hrow, -, hnodes⟩
      rwa [← Phrase.row_inj hrow]
  · have hprogram : tokens.map Token.kind ∉ Grammar.program := by
      intro hmem
      have hword : before.map Token.kind ++ wrong.kind :: after.map Token.kind ∈ rest none := by
        have hmem := mem_program_iff.1 hmem
        rwa [← hend, ← List.map_singleton, ← List.map_append, htokens, List.map_append] at hmem
      have hwrong := (cons_mem_rest.1 (append_mem_rest.1 hword).2).1
      rw [hfollows] at hwrong
      cases hwrong
    refine ⟨⟨fun ⟨nodes, hnodes⟩ => ?_, fun hmem => absurd hmem hprogram⟩, fun nodes => ⟨?_, ?_⟩⟩
    · rw [hparse] at hnodes
      cases hnodes
    · intro hnodes
      rw [hparse] at hnodes
      cases hnodes
    · rintro ⟨phrases, rfl, -, -⟩
      exact absurd (Phrase.map_kind_mem_program_iff.2 ⟨phrases, rfl⟩) hprogram

/-- A text that is no program is refused at its first token with which no program can begin, up to
    the one for the end of input. What is wrong is decided by that token and the kind of token
    before it. -/
theorem parse_error_at_first_impossible_token (text : String) {fault : Fault}
    (hparse : parse text = .error fault) :
    ∃ tokens, tokensToEnd text = .ok tokens ∧ ∃ (i : Nat) (hi : i < tokens.length),
      IsLeast {n | n < tokens.length ∧ ¬ Viable ((tokens.take (n + 1)).map Token.kind)} i ∧
      fault = .syntactic (offence ((tokens.take i).getLast?.map Token.kind) tokens[i]) := by
  obtain ⟨tokens, last, -, htokens, -, hcases⟩ := parse_cases text
  rcases hcases with ⟨phrases, -, haccepted⟩ |
    ⟨before, wrong, after, hsplit, hadmitted, hfollows, hrefused⟩
  · rw [haccepted] at hparse
    cases hparse
  rw [hrefused] at hparse
  obtain rfl := Except.error.inj hparse
  refine ⟨_, htokens, ?_⟩
  simp only [hsplit]
  refine ⟨before.length, by simp, ⟨⟨by simp, ?_⟩, ?_⟩, ?_⟩
  · have htake : (before ++ wrong :: after).take (before.length + 1) = before ++ [wrong] := by
      simp [List.take_append]
    rw [htake, viable_iff_admitted, List.map_append, admitted_append]
    rintro ⟨-, hwrong, -⟩
    rw [hfollows] at hwrong
    cases hwrong
  · rintro n ⟨-, himpossible⟩
    by_contra hlt
    apply himpossible
    rw [viable_iff_admitted, List.take_append_of_le_length (by omega)]
    rw [← List.take_append_drop (n + 1) before, List.map_append, admitted_append] at hadmitted
    exact hadmitted.1
  · simp [lastOf]

/-- The text `let x 1` is refused at its number, where a sign of assignment is missing. -/
theorem parse_error_at_missing_sign :
    parse "let x 1" = .error (.syntactic (offence (some .identifier) ⟨.number, "1", ⟨6, 1, 7⟩⟩)) ∧
      ∃ tokens, tokensToEnd "let x 1" = .ok tokens ∧ ∃ (i : Nat) (hi : i < tokens.length),
        IsLeast {n | n < tokens.length ∧ ¬ Viable ((tokens.take (n + 1)).map Token.kind)} i ∧
        .syntactic (offence (some .identifier) ⟨.number, "1", ⟨6, 1, 7⟩⟩) =
          Fault.syntactic (offence ((tokens.take i).getLast?.map Token.kind) tokens[i]) := by
  have hparse : parse "let x 1" =
      .error (.syntactic (offence (some .identifier) ⟨.number, "1", ⟨6, 1, 7⟩⟩)) := by
    decide +kernel
  exact ⟨hparse, parse_error_at_first_impossible_token "let x 1" hparse⟩

end LetArith
