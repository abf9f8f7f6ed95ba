import LetArith.Proofs.Grammar
import LetArith.Proofs.Reading

namespace LetArith

namespace Grammar

/-- Whether a statement may begin behind a kind of token, or at the beginning. -/
def beginsStatement : Option Kind → Bool
  | none | some .number => true
  | some _ => false

/-- The sort of error of a token of a kind that cannot follow. -/
def errorKind (previous : Option Kind) : Kind → ErrorKind
  | .invalid => .lexical
  | .endOfInput => .unexpectedEnd
  | _ => if beginsStatement previous then .unsupportedStatement else .unexpectedToken

/-- What should have come instead of a token of a kind that cannot follow. -/
def expectation (previous : Option Kind) (kind : Kind) : String :=
  match previous with
  | some .letKeyword => "an identifier after 'let'"
  | some .identifier => "'=' after the bound name"
  | some .assign | some .plus | some .minus | some .times | some .divide => "a number"
  | _ => if kind = .invalid then "a statement" else "'let'"

/-- What is wrong with a token that cannot follow. -/
def detail (previous : Option Kind) (token : Token) : String :=
  match token.kind with
  | .invalid => "invalid character " ++ Text.quote token.literal
  | .endOfInput => "input ended early"
  | _ =>
    if beginsStatement previous then "statements cannot start with " ++ token.description
    else "unexpected " ++ token.description

/-- The error of a token that cannot follow a kind of token, or begin a program. -/
def offence (previous : Option Kind) (token : Token) : ParseError :=
  ⟨errorKind previous token.kind, detail previous token, token, expectation previous token.kind⟩

theorem unexpected_eq_offence {previous : Option Kind} {token : Token} {expected : String}
    (hprevious : beginsStatement previous = false)
    (hexpected : expectation previous token.kind = expected) :
    ParseError.unexpected token expected = offence previous token := by
  rw [ParseError.unexpected, offence, errorKind.eq_def, detail, hexpected, hprevious]
  cases token.kind <;> rfl

theorem offence_of_mem_beforeNumber {previous : Kind} (hprevious : previous ∈ beforeNumber)
    (token : Token) :
    offence (some previous) token = .unexpected token "a number" := by
  simp only [beforeNumber, List.mem_cons, List.not_mem_nil, or_false] at hprevious
  rcases hprevious with rfl | rfl | rfl | rfl | rfl <;> exact (unexpected_eq_offence rfl rfl).symm

theorem offence_of_beginsStatement {previous : Option Kind} {token : Token}
    (hprevious : beginsStatement previous) (hend : token.kind ≠ .endOfInput) :
    (if token.kind = .invalid then ParseError.unexpected token "a statement"
      else ParseError.unsupported token) = offence previous token := by
  have hexpected : expectation previous token.kind =
      if token.kind = .invalid then "a statement" else "'let'" := by
    match previous, hprevious with
    | none, _ | some .number, _ => rfl
  rw [ParseError.unexpected, ParseError.unsupported, offence, errorKind.eq_def, detail, hexpected,
    hprevious]
  cases hkind : token.kind with
  | endOfInput => exact absurd hkind hend
  | _ => rfl

end Grammar

namespace Lexer

open Grammar

/-- A reading of tokens that may follow one another. None of them is the one for the end of
    input. -/
structure Passes (previous : Option Kind) (l : Lexer) (tokens : List Token) (l' : Lexer) :
    Prop where
  reads : Reads l tokens l'
  admitted : Admitted previous (tokens.map Token.kind)
  inside : ∀ token ∈ tokens, token.kind ≠ .endOfInput

namespace Passes

theorem nil (previous : Option Kind) (l : Lexer) : Passes previous l [] l :=
  ⟨.nil (.refl l), trivial, by simp⟩

theorem append {previous : Option Kind} {l l₁ l₂ : Lexer} {before after : List Token}
    (h : Passes previous l before l₁)
    (h' : Passes (lastOf previous (before.map Token.kind)) l₁ after l₂) :
    Passes previous l (before ++ after) l₂ := by
  refine ⟨h.reads.append h'.reads, ?_, ?_⟩
  · rw [List.map_append]
    exact admitted_append.2 ⟨h.admitted, h'.admitted⟩
  · intro token htoken
    rcases List.mem_append.1 htoken with htoken | htoken
    · exact h.inside token htoken
    · exact h'.inside token htoken

/-- Tokens that may follow one another and end with another token than the one for the end of input
    do not hold that one at all. -/
theorem of_lastOf {previous : Option Kind} {l l' : Lexer} {tokens : List Token}
    (hreads : Reads l tokens l') (hadmitted : Admitted previous (tokens.map Token.kind))
    (hlast : lastOf previous (tokens.map Token.kind) ≠ some .endOfInput) :
    Passes previous l tokens l' := by
  refine ⟨hreads, hadmitted, fun token htoken hend => hlast ?_⟩
  exact lastOf_of_endOfInput_mem hadmitted (List.mem_map.2 ⟨token, htoken, hend⟩)

theorem one {previous : Option Kind} {l l' : Lexer} {token : Token}
    (hnext : l.next = .ok token l') (hfollows : follows previous token.kind)
    (hend : token.kind ≠ .endOfInput) : Passes previous l [token] l' :=
  ⟨.one hnext, ⟨hfollows, trivial⟩, by simpa using hend⟩

end Passes

/-- What is left behind by a step that fails at the first token that cannot follow: the error of
    that token, and the lexer behind it. Only where a sign of assignment is missing the token is
    left to be read. -/
inductive Offends (previous : Option Kind) (l : Lexer) : Fault → Lexer → Prop
  | intro {tokens : List Token} {wrong : Token} {l₁ l₂ l' : Lexer}
      (hpasses : Passes previous l tokens l₁) (hwrong : l₁.next = .ok wrong l₂)
      (hfollows : follows (lastOf previous (tokens.map Token.kind)) wrong.kind = false)
      (hleft : l' = if lastOf previous (tokens.map Token.kind) = some .identifier then l₁ else l₂) :
      Offends previous l
        (.syntactic (offence (lastOf previous (tokens.map Token.kind)) wrong)) l'

namespace Offends

theorem of_next {previous : Option Kind} {l l' : Lexer} {wrong : Token}
    (hwrong : l.next = .ok wrong l') (hfollows : follows previous wrong.kind = false)
    (hprevious : previous ≠ some .identifier) :
    Offends previous l (.syntactic (offence previous wrong)) l' :=
  .intro (.nil previous l) hwrong hfollows (if_neg hprevious).symm

theorem prepend {previous : Option Kind} {l l₁ l' : Lexer} {tokens : List Token}
    {fault : Fault} (hpasses : Passes previous l tokens l₁)
    (h : Offends (lastOf previous (tokens.map Token.kind)) l₁ fault l') :
    Offends previous l fault l' := by
  cases h with
  | intro hpasses' hwrong hfollows hleft =>
    rw [← lastOf_append, ← List.map_append] at hfollows hleft ⊢
    exact .intro (hpasses.append hpasses') hwrong hfollows hleft

theorem cons {previous : Option Kind} {kind : Kind} {l l₁ l' : Lexer} {token : Token}
    {fault : Fault} (hnext : l.next = .ok token l₁) (hkind : token.kind = kind)
    (hfollows : follows previous kind) (hend : kind ≠ .endOfInput)
    (h : Offends (some kind) l₁ fault l') : Offends previous l fault l' := by
  obtain rfl := hkind
  exact prepend (.one hnext hfollows hend) h

end Offends

end Lexer

end LetArith
