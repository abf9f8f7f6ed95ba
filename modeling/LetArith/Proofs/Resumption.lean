import LetArith.Proofs.Stopping
import LetArith.Proofs.Threshold

namespace LetArith

namespace Lexer

theorem Reads.remaining_le {l l' : Lexer} {tokens : List Token} (h : Reads l tokens l') :
    l'.remaining ≤ l.remaining := by
  induction h with
  | nil halike =>
    unfold remaining
    rw [halike.source, halike.cursor]
  | @cons l l₁ l₂ token tokens hnext _ ih =>
    have hle : l₁.remaining ≤ l.remaining := by
      simpa only [hnext, Step.lexer] using remaining_next_le l
    exact Nat.le_trans ih hle

theorem Reads.remaining_lt {l l' : Lexer} {token : Token} {others : List Token}
    (h : Reads l (token :: others) l') (hkind : token.kind ≠ .endOfInput) :
    l'.remaining < l.remaining := by
  cases h with
  | cons hnext htail => exact Nat.lt_of_le_of_lt htail.remaining_le (remaining_next_lt hnext hkind)

theorem Reads.head_eq {l l' behind : Lexer} {token first : Token} {others : List Token}
    (h : Reads l (first :: others) l') (hnext : l.next = .ok token behind) : first = token := by
  cases h with
  | cons hfirst _ => exact (EStateM.Result.ok.inj (hfirst.symm.trans hnext)).1

/-- The tokens that a lexer still holds: all that it reads before the end of its text. -/
def Holds (l : Lexer) (tokens : List Token) : Prop :=
  ∃ last l₁ l₂, Reads l tokens l₁ ∧ l₁.next = .ok last l₂ ∧ last.kind = .endOfInput ∧
    ∀ token ∈ tokens, token.kind ≠ .endOfInput

namespace Holds

variable {l l' : Lexer} {tokens : List Token}

theorem of_alike (halike : Alike l l') (h : l.Holds tokens) : l'.Holds tokens := by
  obtain ⟨last, l₁, l₂, hreads, hrest⟩ := h
  exact ⟨last, l₁, l₂, .of_alike halike.symm hreads, hrest⟩

theorem within (h : l.Holds tokens) : l.Within := by
  obtain ⟨last, l₁, l₂, hreads, hlast, -⟩ := h
  cases hreads with
  | nil halike => exact halike.symm.within (within_of_next hlast)
  | cons hnext _ => exact within_of_next hnext

private theorem eq_nil_of_next {last : Token} (h : l.Holds tokens) (hnext : l.next = .ok last l')
    (hend : last.kind = .endOfInput) : tokens = [] := by
  obtain ⟨_, _, _, hreads, -, -, hinside⟩ := h
  cases tokens with
  | nil => rfl
  | cons token tokens =>
    rw [hreads.head_eq hnext] at hinside
    exact absurd hend (hinside last List.mem_cons_self)

/-- Reading a token takes it from what is held, unless it is the one for the end of input. -/
theorem next {token : Token} (h : l.Holds tokens) (hnext : l.next = .ok token l') :
    ∃ rest, l'.Holds rest ∧ tokens = [token].filter (·.kind ≠ .endOfInput) ++ rest := by
  by_cases hend : token.kind = .endOfInput
  · refine ⟨[], ⟨token, l', l', .nil (.refl l'), next_of_endOfInput hnext hend, hend, by simp⟩, ?_⟩
    simp [hend, h.eq_nil_of_next hnext hend]
  · obtain ⟨last, l₁, l₂, hreads, hlast, hlastEnd, hinside⟩ := h
    have hlength := hreads.length_le hlast hlastEnd (.one hnext) (by simpa using hend)
    obtain ⟨rest, rfl, hrest⟩ := (Reads.one hnext).split (.refl l) hreads hlength
    refine ⟨rest, ⟨last, l₁, l₂, hrest, hlast, hlastEnd, ?_⟩, by simp [hend]⟩
    exact fun token htoken => hinside token (List.mem_append_right _ htoken)

/-- What is held is read from the front, and what is left is held behind it. -/
theorem rest {row : List Token} (h : l.Holds tokens) (hreads : Reads l row l') :
    ∃ rest, l'.Holds rest ∧ tokens = row.filter (·.kind ≠ .endOfInput) ++ rest := by
  induction hreads generalizing tokens with
  | nil halike => exact ⟨tokens, h.of_alike halike, rfl⟩
  | @cons l l₁ l₂ token others hnext _ ih =>
    obtain ⟨behind, hbehind, rfl⟩ := h.next hnext
    obtain ⟨rest, hrest, rfl⟩ := ih hbehind
    refine ⟨rest, hrest, ?_⟩
    rw [← List.append_assoc, ← List.filter_append, List.singleton_append]

end Holds

/-- A lexer at the beginning of a text holds the tokens of the text. -/
theorem exists_holds (text : String) :
    ∃ tokens, tokenize text = .ok tokens ∧ (ofString text).Holds tokens := by
  obtain ⟨tokens, last, l, l', hdrain, hreads, hlast, hend, hinside⟩ :=
    exists_drain (within_ofString text)
  exact ⟨tokens, (tokens_of_drain hdrain (next_of_endOfInput hlast hend)).1, last, l, l', hreads,
    hlast, hend, hinside⟩

/-- An error at the beginning of a statement or within it comes when a token has been taken: behind
    the keyword there is one, and a token that begins no statement is taken itself. -/
theorem Offends.exists_reads {l l' : Lexer} {fault : Fault} (h : Offends none l fault l') :
    ∃ error token others, fault = .syntactic error ∧ token.kind ≠ .endOfInput ∧
      Reads l (token :: others) l' := by
  cases h with
  | @intro tokens wrong l₁ l₂ _ hpasses hwrong hfollows hleft =>
    cases tokens with
    | nil =>
      refine ⟨_, wrong, [], rfl, ?_, ?_⟩
      · intro hend
        rw [hend] at hfollows
        cases hfollows
      · rw [hleft]
        exact hpasses.reads.snoc hwrong
    | cons token tokens =>
      have hinside := hpasses.inside token List.mem_cons_self
      by_cases hname : Grammar.lastOf none ((token :: tokens).map Token.kind) = some .identifier
      · rw [if_pos hname] at hleft
        exact ⟨_, token, tokens, rfl, hinside, hleft ▸ hpasses.reads⟩
      · rw [if_neg hname] at hleft
        exact ⟨_, token, tokens ++ [wrong], rfl, hinside, hleft ▸ hpasses.reads.snoc hwrong⟩

end Lexer

namespace Parser

open Lexer (Reads Holds)

/-- A statement takes the token before it, whether it is read or refused. -/
theorem statement_takes {l m : Lexer} {token : Token} (hpeek : l.peek = .ok token m)
    (hend : token.kind ≠ .endOfInput) :
    ∃ others, Reads l (token :: others) (Step.lexer (statement l)) := by
  obtain ⟨⟨behind, hnext⟩, -⟩ := Lexer.peek_eq_ok_iff.1 hpeek
  have hbegins : Grammar.beginsStatement none := rfl
  rcases statement_cases (Lexer.within_of_next hnext) hbegins hnext hend (by simp) with
    ⟨phrase, stop, l', behind', hpasses, -, -, hstatement⟩ | ⟨fault, l', hstatement, hoffends⟩
  · have hhead := hpasses.reads.head_eq hnext
    rw [hstatement, ← hhead]
    exact ⟨_, hpasses.reads⟩
  · obtain ⟨error, first, others, -, -, hreads⟩ := hoffends.exists_reads
    rw [hstatement, ← hreads.head_eq hnext]
    exact ⟨others, hreads⟩

/-- Reading a program ends where the text does, or with an error behind a token at least. -/
theorem program_cases {l : Lexer} (hwithin : l.Within) :
    (∃ nodes row last l' behind, program l = .ok nodes l' ∧ Reads l row l' ∧
      l'.next = .ok last behind ∧ last.kind = .endOfInput) ∨
    ∃ error token others l', program l = .error (.syntactic error) l' ∧
      token.kind ≠ .endOfInput ∧ Reads l (token :: others) l' := by
  obtain ⟨token, behind, htoken⟩ := Lexer.exists_next hwithin
  simp only [program, bind, EStateM.bind]
  rcases statements_cases none hwithin rfl htoken (by simp) with
    ⟨phrases, last, l', behind', hpasses, hlast, hend, hstatements⟩ |
    ⟨fault, l', hstatements, hoffends⟩
  · have halike := Lexer.Alike.note l' (.finished (phrases.map Phrase.node).length) rfl
    obtain ⟨behind'', hlast', -⟩ := halike.next hlast
    have hreads := hpasses.reads.append (.nil halike)
    rw [List.append_nil] at hreads
    exact .inl ⟨_, _, last, _, behind'', by simp only [hstatements]; rfl, hreads, hlast', hend⟩
  · obtain ⟨error, first, others, rfl, hfirst, hreads⟩ := hoffends.exists_reads
    exact .inr ⟨error, first, others, l', by simp only [hstatements], hfirst, hreads⟩

private theorem within_of_program {l l' : Lexer} {error : ParseError}
    (h : program l = .error (.syntactic error) l') : l.Within := by
  cases hnext : l.next with
  | ok token behind => exact Lexer.within_of_next hnext
  | error fault behind =>
    rw [Lexer.next_eq] at hnext
    have hpeek := Lexer.peek_eq l
    rw [Lexer.next_eq] at hpeek
    cases hfound : Lexer.tokenAt? l.source l.cursor with
    | some found =>
      rw [hfound] at hnext
      cases hnext
    | none =>
      rw [hfound] at hpeek
      simp only [program, bind, EStateM.bind] at h
      rw [statements] at h
      simp only [hpeek] at h
      cases h

private theorem remaining_program_lt {l l' : Lexer} {error : ParseError}
    (h : program l = .error (.syntactic error) l') : l'.remaining < l.remaining := by
  rcases program_cases (within_of_program h) with ⟨_, _, _, _, _, hprogram, -⟩ |
    ⟨_, token, others, _, hprogram, hkind, hreads⟩
  · rw [hprogram] at h
    cases h
  · obtain ⟨-, rfl⟩ := EStateM.Result.error.inj (hprogram.symm.trans h)
    exact hreads.remaining_lt hkind

/-- What comes of reading a program from a lexer, and again from where it stopped as long as it finds
    an error in the text. -/
def attempts (l : Lexer) : List (Step (List Node)) :=
  match _ : program l with
  | .error (.syntactic error) l' => .error (.syntactic error) l' :: attempts l'
  | step => [step]
termination_by l.remaining
decreasing_by exact remaining_program_lt ‹_›

private theorem attempts_of_error {l l' : Lexer} {error : ParseError}
    (h : program l = .error (.syntactic error) l') :
    attempts l = .error (.syntactic error) l' :: attempts l' := by
  rw [attempts]
  split
  · next hprogram =>
    obtain ⟨hfault, rfl⟩ := EStateM.Result.error.inj (hprogram.symm.trans h)
    rw [hfault]
  · next hother => exact absurd h (hother error l')

private theorem attempts_of_ok {l l' : Lexer} {nodes : List Node} (h : program l = .ok nodes l') :
    attempts l = [.ok nodes l'] := by
  rw [attempts]
  split
  · next hprogram => cases hprogram.symm.trans h
  · rw [h]

/-- The rows of tokens that steps take, each of which begins with the lexer that the one before it
    left. -/
inductive Takes {α : Type} : Lexer → List (Step α) → List (List Token) → Prop
  | nil (l : Lexer) : Takes l [] []
  | cons {l : Lexer} {step : Step α} {steps : List (Step α)} {row : List Token}
      {rows : List (List Token)} (hreads : Reads l row step.lexer)
      (hrest : Takes step.lexer steps rows) : Takes l (step :: steps) (row :: rows)

private theorem filter_invalid_append (row rest : List Token) :
    (row.filter (·.kind ≠ .endOfInput) ++ rest).filter (·.kind = .invalid) =
      row.filter (·.kind = .invalid) ++ rest.filter (·.kind = .invalid) := by
  rw [List.filter_append, List.filter_filter]
  congr 1
  refine List.filter_congr fun token _ => ?_
  cases token.kind <;> rfl

/-- Attempts to read a program are refused no more often than there are tokens, and the last one
    succeeds. Together they take what the lexer holds. -/
theorem attempts_cases {l : Lexer} {tokens : List Token} (h : l.Holds tokens) :
    ∃ refusals nodes l' rows, attempts l = refusals ++ [.ok nodes l'] ∧
      (∀ step ∈ refusals, ∃ error m, step = .error (.syntactic error) m) ∧
      refusals.length ≤ tokens.length ∧ Takes l (refusals ++ [.ok nodes l']) rows ∧
      rows.flatten.filter (·.kind ≠ .endOfInput) = tokens ∧
      l'.diagnostics =
        l.diagnostics ++ (tokens.filter (·.kind = .invalid)).map Event.complaint := by
  induction hremaining : l.remaining using Nat.strongRecOn generalizing l tokens with
  | _ n ih =>
    rcases program_cases h.within with
      ⟨nodes, row, last, l', behind, hprogram, hreads, hlast, hend⟩ |
      ⟨error, token, others, l', hprogram, hkind, hreads⟩
    · obtain ⟨rest, hrest, rfl⟩ := h.rest hreads
      obtain rfl := hrest.eq_nil_of_next hlast hend
      refine ⟨[], nodes, l', [row], attempts_of_ok hprogram, by simp, Nat.zero_le _,
        .cons hreads (.nil l'), by simp, ?_⟩
      rw [hreads.diagnostics, filter_invalid_append, List.filter_nil, List.append_nil]
    · obtain ⟨rest, hrest, rfl⟩ := h.rest hreads
      obtain ⟨refusals, nodes, l'', rows, hattempts, hrefused, hlength, htakes, hrows,
        hdiagnostics⟩ := ih l'.remaining (hremaining ▸ hreads.remaining_lt hkind) hrest rfl
      refine ⟨.error (.syntactic error) l' :: refusals, nodes, l'', (token :: others) :: rows, ?_,
        List.forall_mem_cons.2 ⟨⟨error, l', rfl⟩, hrefused⟩, ?_, .cons hreads htakes, ?_, ?_⟩
      · rw [attempts_of_error hprogram, hattempts, List.cons_append]
      · -- The token that was taken first makes up for the refusal.
        rw [List.filter_cons_of_pos (by simpa using hkind)]
        simp only [List.length_cons, List.length_append]
        omega
      · rw [List.flatten_cons, List.filter_append, hrows]
      · rw [hdiagnostics, hreads.diagnostics, filter_invalid_append, List.map_append,
          List.append_assoc]

end Parser

/-- Before any token but the one for the end of input, a statement takes that token at least, whether
    it is read or refused. When a program is asked for again after every error in a text, the text is
    refused at most once for every token of it and read to its end then; the tokens that all attempts
    take are those of the text, each of them once and in their order, and the complaints are one for
    every token that no grammar admits. -/
theorem parser_resumes_to_end :
    (∀ {l m : Lexer} {token : Token}, l.peek = .ok token m → token.kind ≠ .endOfInput →
      ∃ others, Lexer.Reads l (token :: others) (Step.lexer (Parser.statement l))) ∧
    ∀ text : String, ∃ tokens refusals nodes l rows, tokenize text = .ok tokens ∧
      Parser.attempts (Lexer.ofString text) = refusals ++ [.ok nodes l] ∧
      (∀ step ∈ refusals, ∃ error m, step = .error (.syntactic error) m) ∧
      refusals.length ≤ tokens.length ∧
      Parser.Takes (Lexer.ofString text) (refusals ++ [.ok nodes l]) rows ∧
      rows.flatten.filter (·.kind ≠ .endOfInput) = tokens ∧
      l.diagnostics = (tokens.filter (·.kind = .invalid)).map Event.complaint := by
  refine ⟨Parser.statement_takes, fun text => ?_⟩
  obtain ⟨tokens, htokenize, hholds⟩ := Lexer.exists_holds text
  obtain ⟨refusals, nodes, l, rows, hattempts⟩ := Parser.attempts_cases hholds
  exact ⟨tokens, refusals, nodes, l, rows, htokenize, hattempts⟩

/-- A stray character behind a name is left by the first refusal and complained about by the next. -/
theorem parser_resumes_to_end_behind_name :
    let l := Lexer.ofString "let x ? 1"
    let keyword : Token := ⟨.letKeyword, "let", {}⟩
    let stray : Token := ⟨.invalid, "?", ⟨6, 1, 7⟩⟩
    l.peek = .ok keyword l ∧ keyword.kind ≠ .endOfInput ∧
      (∃ others, Lexer.Reads l (keyword :: others) (Step.lexer (Parser.statement l))) ∧
      ∃ refusals nodes l', Parser.attempts l = refusals ++ [.ok nodes l'] ∧
        refusals.length ≤ 4 ∧ l'.diagnostics = [Event.complaint stray] := by
  intro l keyword stray
  have hfirst : l.next = .ok keyword { l with cursor := ⟨3, 1, 4⟩ } :=
    Lexer.next_eq_ok_iff.2 ⟨⟨3, 1, 4⟩, by decide +kernel, rfl⟩
  have hpeek : l.peek = .ok keyword l := Lexer.peek_eq_ok_iff.2 ⟨⟨_, hfirst⟩, rfl⟩
  have hkind : keyword.kind ≠ .endOfInput := by decide
  obtain ⟨tokens, refusals, nodes, l', rows, htokenize, hattempts, -, hlength, -, -, hdiagnostics⟩ :=
    parser_resumes_to_end.2 "let x ? 1"
  have htokens : tokenize "let x ? 1" = .ok [keyword, ⟨.identifier, "x", ⟨4, 1, 5⟩⟩, stray,
      ⟨.number, "1", ⟨8, 1, 9⟩⟩] := by decide +kernel
  obtain rfl := Except.ok.inj (htokens.symm.trans htokenize)
  exact ⟨hpeek, hkind, parser_resumes_to_end.1 hpeek hkind, refusals, nodes, l', hattempts, hlength,
    hdiagnostics⟩

end LetArith
