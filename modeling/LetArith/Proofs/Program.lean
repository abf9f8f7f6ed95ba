import LetArith.Proofs.Expression
import LetArith.Proofs.Offence
import LetArith.Proofs.Phrase

namespace LetArith.Parser

open Grammar Lexer

theorem expect_eq {l l' : Lexer} {token : Token} (kind : Kind) (expected : String)
    (h : l.next = .ok token l') :
    expect kind expected l =
      if token.kind = kind then .ok token l'
      else .error (.syntactic (.unexpected token expected)) l' := by
  simp only [expect, bind, EStateM.bind, h]
  split <;> rfl

theorem demand_eq {l l' : Lexer} {token : Token} (kind : Kind) (expected : String)
    (h : l.next = .ok token l') :
    demand kind expected l =
      if token.kind = kind then .ok () l
      else .error (.syntactic (.unexpected token expected)) l := by
  have hpeek : l.peek = .ok token l := peek_eq_ok_iff.2 ⟨⟨l', h⟩, rfl⟩
  simp only [demand, bind, EStateM.bind, hpeek]
  split <;> rfl

private theorem offends_of_kind_ne_number {previous : Kind} {l l' : Lexer} {wrong : Token}
    (hprevious : previous ∈ beforeNumber) (hwrong : l.next = .ok wrong l')
    (hkind : wrong.kind ≠ .number) :
    Offends (some previous) l (.syntactic (.unexpected wrong "a number")) l' := by
  rw [← offence_of_mem_beforeNumber hprevious]
  apply Offends.of_next hwrong
  · rw [follows_of_mem_beforeNumber hprevious]
    exact decide_eq_false hkind
  · intro hidentifier
    obtain rfl := Option.some.inj hidentifier
    exact absurd hprevious (by decide)

private theorem continues?_zero_eq_none_iff {token : Token} :
    continues? 0 token = none ↔ token.kind.operator? = none := by
  cases hoperator : token.kind.operator? with
  | none => simp [continues?, hoperator]
  | some operator =>
    have hpower : 0 ≤ operator.leftPower := by cases operator <;> decide
    simp [continues?, hoperator, hpower]

private theorem passes_chain_snoc {l l' : Lexer} {links : List Link} {sign : Token}
    (hreads : Reads l (Link.chain links ++ [sign]) l') (hoperator : sign.kind.operator? ≠ none) :
    Passes (some .number) l (Link.chain links ++ [sign]) l' ∧
      lastOf (some .number) ((Link.chain links ++ [sign]).map Token.kind) = some sign.kind := by
  have hlast : lastOf (some .number) ((Link.chain links ++ [sign]).map Token.kind) =
      some sign.kind := by
    rw [List.map_append, lastOf_append]
    rfl
  refine ⟨.of_lastOf hreads ?_ ?_, hlast⟩
  · rw [List.map_append, admitted_append, Link.lastOf_chain]
    exact ⟨Link.admitted_chain links, follows_number_iff.2 (.inl hoperator), trivial⟩
  · rw [hlast]
    rintro hend
    rw [Option.some.inj hend] at hoperator
    exact hoperator rfl

/-- What comes of reading an expression behind a sign of assignment: the tree of a number and a
    chain, up to a token that continues no expression, or an offence. -/
theorem expression_zero {l : Lexer} (hwithin : l.Within) :
    (∃ first links stop l' behind, first.kind = .number ∧
      Reads l (first :: Link.chain links) l' ∧ l'.next = .ok stop behind ∧
      stop.kind.operator? = none ∧ expression 0 l = .ok (layered first.leaf links) l') ∨
    ∃ fault l', expression 0 l = .error fault l' ∧ Offends (some .assign) l fault l' := by
  obtain ⟨first, l₁, hfirst⟩ := exists_next hwithin
  by_cases hnumber : first.kind = .number
  · have hexpression : expression 0 l = extend 0 first.leaf l₁ := by
      simp only [expression, bind, EStateM.bind, primary_eq hfirst, if_pos hnumber]
    have hextends := extends_extend 0 first.leaf (hwithin.next hfirst)
    rw [hexpression]
    generalize extend 0 first.leaf l₁ = step at hextends
    cases hextends with
    | @done links stop l' behind hreads _ hstop hcontinues =>
      exact .inl ⟨first, links, stop, l', behind, hnumber, .cons hfirst hreads, hstop,
        continues?_zero_eq_none_iff.1 hcontinues, rfl⟩
    | @broken links sign wrong l₂ l₃ hreads _ hcontinues hwrong hkind =>
      have hoperator : sign.kind.operator? ≠ none := mt continues?_zero_eq_none_iff.2 hcontinues
      obtain ⟨hpasses, hlast⟩ := passes_chain_snoc hreads hoperator
      refine .inr ⟨_, _, rfl, .cons hfirst hnumber rfl (by decide) (.prepend hpasses ?_)⟩
      rw [hlast]
      exact offends_of_kind_ne_number (mem_beforeNumber hoperator) hwrong hkind
  · refine .inr ⟨_, _, ?_, offends_of_kind_ne_number (by decide) hfirst hnumber⟩
    simp only [expression, bind, EStateM.bind, primary_eq hfirst, if_neg hnumber]

/-- What comes of reading the rest of a binding behind its keyword: the binding of a phrase, up to a
    token that continues no expression, or an offence. -/
theorem binding_cases {keyword : Token} {l : Lexer} (hwithin : l.Within)
    (hkeyword : keyword.kind = .letKeyword) :
    (∃ phrase tokens stop l' behind, Phrase.tokens phrase = keyword :: tokens ∧
      Reads l tokens l' ∧ l'.next = .ok stop behind ∧ stop.kind.operator? = none ∧
      binding keyword l = .ok phrase.node l') ∨
    ∃ fault l', binding keyword l = .error fault l' ∧ Offends (some .letKeyword) l fault l' := by
  simp only [binding, bind, EStateM.bind]
  obtain ⟨name, l₁, hname⟩ := exists_next hwithin
  have hwithin₁ := hwithin.next hname
  rw [expect_eq _ _ hname]
  by_cases hidentifier : name.kind = .identifier
  · obtain ⟨sign, l₂, hsign⟩ := exists_next hwithin₁
    have hwithin₂ := hwithin₁.next hsign
    simp only [if_pos hidentifier]
    rw [demand_eq _ _ hsign]
    by_cases hassign : sign.kind = .assign
    · simp only [if_pos hassign, hsign]
      rcases expression_zero hwithin₂ with
        ⟨first, links, stop, l₃, behind, hfirst, hreads, hstop, hoperator, hexpression⟩ |
        ⟨fault, l₃, hexpression, hoffends⟩
      · let phrase : Phrase :=
          ⟨keyword, name, sign, first, links, hkeyword, hidentifier, hassign, hfirst⟩
        have halike := Alike.note l₃ (.bound name.literal (layered first.leaf links)) rfl
        obtain ⟨behind', hstop', -⟩ := halike.next hstop
        refine .inl ⟨phrase, name :: sign :: first :: Link.chain links, stop, _, behind', rfl, ?_,
          hstop', hoperator, ?_⟩
        · exact .cons hname (.cons hsign (by simpa using hreads.append (.nil halike)))
        · simp only [hexpression]
          rfl
      · refine .inr ⟨fault, l₃, by simp only [hexpression],
          .cons hname hidentifier rfl (by decide) ?_⟩
        exact .cons hsign hassign rfl (by decide) hoffends
    · refine .inr ⟨.syntactic (.unexpected sign "'=' after the bound name"), l₁,
        by simp only [if_neg hassign], .cons hname hidentifier rfl (by decide) ?_⟩
      have hoffence : ParseError.unexpected sign "'=' after the bound name" =
          offence (some .identifier) sign := unexpected_eq_offence rfl rfl
      rw [hoffence]
      exact .intro (.nil _ l₁) hsign (decide_eq_false hassign) rfl
  · refine .inr ⟨.syntactic (.unexpected name "an identifier after 'let'"), l₁,
      by simp only [if_neg hidentifier], ?_⟩
    have hoffence : ParseError.unexpected name "an identifier after 'let'" =
        offence (some .letKeyword) name := unexpected_eq_offence rfl rfl
    rw [hoffence]
    exact .of_next hname (decide_eq_false hidentifier) (by decide)

private theorem statement_of_kind_ne {previous : Option Kind} {l l' : Lexer} {token : Token}
    (htoken : l.next = .ok token l') (hprevious : beginsStatement previous)
    (hend : token.kind ≠ .endOfInput) (hkeyword : token.kind ≠ .letKeyword) :
    statement l = .error (.syntactic (offence previous token)) l' := by
  rw [← offence_of_beginsStatement hprevious hend]
  simp only [statement, bind, EStateM.bind, htoken]
  cases hkind : token.kind with
  | letKeyword => exact absurd hkind hkeyword
  | endOfInput => exact absurd hkind hend
  | _ => rfl

/-- What comes of reading a statement where one may begin, before another token than the one for the
    end of input: the binding of a phrase, up to a token that continues no expression, or an
    offence. -/
theorem statement_cases {previous : Option Kind} {l behind : Lexer} {token : Token}
    (hwithin : l.Within) (hprevious : beginsStatement previous) (htoken : l.next = .ok token behind)
    (hend : token.kind ≠ .endOfInput)
    (hoperator : previous = some .number → token.kind.operator? = none) :
    (∃ phrase stop l' behind', Passes previous l (Phrase.tokens phrase) l' ∧
      l'.next = .ok stop behind' ∧ stop.kind.operator? = none ∧
      statement l = .ok phrase.node l') ∨
    ∃ fault l', statement l = .error fault l' ∧ Offends previous l fault l' := by
  by_cases hkeyword : token.kind = .letKeyword
  · have hfollows : follows previous .letKeyword := by
      match previous, hprevious with
      | none, _ | some .number, _ => rfl
    have hstatement : statement l = binding token behind := by
      simp only [statement, bind, EStateM.bind, htoken, hkeyword]
    rw [hstatement]
    rcases binding_cases (hwithin.next htoken) hkeyword with
      ⟨phrase, tokens, stop, l', behind', htokens, hreads, hstop, hoperator', hbinding⟩ |
      ⟨fault, l', hbinding, hoffends⟩
    · refine .inl ⟨phrase, stop, l', behind', .of_lastOf ?_ ?_ ?_, hstop, hoperator', hbinding⟩
      · rw [htokens]
        exact .cons htoken hreads
      · exact phrase.admitted_tokens hfollows
      · rw [phrase.lastOf_tokens]
        simp
    · exact .inr ⟨fault, l', hbinding, .cons htoken hkeyword hfollows (by decide) hoffends⟩
  · refine .inr ⟨_, behind, statement_of_kind_ne htoken hprevious hend hkeyword,
      .of_next htoken ?_ ?_⟩
    · match previous, hprevious with
      | none, _ => simp [follows, hkeyword, hend]
      | some .number, _ =>
        rw [Bool.eq_false_iff]
        intro hfollows
        rcases follows_number_iff.1 hfollows with h | h | h
        · exact h (hoperator rfl)
        · exact hkeyword h
        · exact hend h
    · rintro rfl
      cases hprevious

theorem statements_of_next {l behind : Lexer} {token : Token} (h : l.next = .ok token behind) :
    statements l =
      if token.kind = .endOfInput then .ok [] l
      else
        match statement l with
        | .error fault l' => .error fault l'
        | .ok node l' =>
          match statements l' with
          | .ok nodes l'' => .ok (node :: nodes) l''
          | .error fault l'' => .error fault l'' := by
  have hpeek : l.peek = .ok token l := peek_eq_ok_iff.2 ⟨⟨behind, h⟩, rfl⟩
  rw [statements]
  simp only [hpeek]
  split
  · rfl
  · split
    · next hstatement => simp only [hstatement]
    · next node l' hstatement => cases hrest : statements l' <;> simp only [hstatement, hrest]

/-- What comes of reading statements up to the end of the text where a statement may begin: the
    bindings of a row of phrases, or an offence. -/
theorem statements_cases (previous : Option Kind) {l behind : Lexer} {token : Token}
    (hwithin : l.Within) (hprevious : beginsStatement previous) (htoken : l.next = .ok token behind)
    (hoperator : previous = some .number → token.kind.operator? = none) :
    (∃ phrases last l' behind', Passes previous l (Phrase.row phrases) l' ∧
      l'.next = .ok last behind' ∧ last.kind = .endOfInput ∧
      statements l = .ok (phrases.map Phrase.node) l') ∨
    ∃ fault l', statements l = .error fault l' ∧ Offends previous l fault l' := by
  induction hremaining : l.remaining using Nat.strongRecOn
    generalizing previous l behind token with
  | _ n ih =>
    rw [statements_of_next htoken]
    by_cases hend : token.kind = .endOfInput
    · rw [if_pos hend]
      exact .inl ⟨[], token, l, behind, .nil previous l, htoken, hend, rfl⟩
    · rw [if_neg hend]
      rcases statement_cases hwithin hprevious htoken hend hoperator with
        ⟨phrase, stop, l₁, behind₁, hpasses, hstop, hoperator₁, hstatement⟩ |
        ⟨fault, l₁, hstatement, hoffends⟩
      · have hlast := phrase.lastOf_tokens previous
        have hlt := remaining_statement_lt hstatement
        simp only [hstatement]
        rcases ih l₁.remaining (by omega) (some .number) (hpasses.reads.within hwithin) rfl hstop
            (fun _ => hoperator₁) rfl with
          ⟨phrases, last, l₂, behind₂, hpasses₂, hlast₂, hend₂, hstatements⟩ |
          ⟨fault, l₂, hstatements, hoffends⟩
        · rw [hstatements]
          exact .inl ⟨phrase :: phrases, last, l₂, behind₂, hpasses.append (hlast ▸ hpasses₂),
            hlast₂, hend₂, rfl⟩
        · rw [hstatements]
          exact .inr ⟨fault, l₂, rfl, .prepend hpasses (hlast ▸ hoffends)⟩
      · rw [hstatement]
        exact .inr ⟨fault, l₁, rfl, hoffends⟩

end LetArith.Parser
