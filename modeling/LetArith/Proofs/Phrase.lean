import LetArith.Proofs.Grammar
import LetArith.Proofs.Layers

namespace LetArith

open scoped Computability

/-- The tokens of a binding. -/
structure Phrase where
  keyword : Token
  name : Token
  sign : Token
  first : Token
  links : List Link
  keyword_kind : keyword.kind = .letKeyword
  name_kind : name.kind = .identifier
  sign_kind : sign.kind = .assign
  first_kind : first.kind = .number

namespace Phrase

/-- The tokens of a phrase in their order. -/
def tokens (phrase : Phrase) : List Token :=
  phrase.keyword :: phrase.name :: phrase.sign :: phrase.first :: Link.chain phrase.links

/-- The tokens of several phrases. -/
def row (phrases : List Phrase) : List Token := phrases.flatMap tokens

/-- The binding that a phrase denotes: its name, and the tree of its expression in two layers. -/
def node (phrase : Phrase) : Node :=
  .binding phrase.name.literal (layered phrase.first.leaf phrase.links)
    phrase.keyword.start.location

end Phrase

@[simp] theorem Link.chain_cons (link : Link) (links : List Link) :
    Link.chain (link :: links) = link.sign :: link.operand :: Link.chain links := rfl

theorem Grammar.mem_operator_iff {word : List Kind} :
    word ∈ Grammar.operator ↔ ∃ kind operator, word = [kind] ∧ kind.operator? = some operator := by
  constructor
  · rintro (((⟨_, rfl, rfl⟩ | ⟨_, rfl, rfl⟩) | ⟨_, rfl, rfl⟩) | ⟨_, rfl, rfl⟩)
    · exact ⟨.plus, .plus, rfl, rfl⟩
    · exact ⟨.minus, .minus, rfl, rfl⟩
    · exact ⟨.times, .times, rfl, rfl⟩
    · exact ⟨.divide, .divide, rfl, rfl⟩
  · rintro ⟨kind, operator, rfl, hkind⟩
    cases kind with
    | plus => exact .inl (.inl (.inl (Words.singleton_mem_single _)))
    | minus => exact .inl (.inl (.inr (Words.singleton_mem_single _)))
    | times => exact .inl (.inr (Words.singleton_mem_single _))
    | divide => exact .inr (Words.singleton_mem_single _)
    | _ => cases hkind

theorem Grammar.exists_cons_of_map_kind_mem {kind : Kind} {words : Language Kind}
    {tokens : List Token} (h : tokens.map Token.kind ∈ Words.single kind * words) :
    ∃ token others, tokens = token :: others ∧ token.kind = kind ∧
      others.map Token.kind ∈ words := by
  cases tokens with
  | nil => exact absurd h (Words.nil_notMem_oneOf_mul _ _)
  | cons token others => exact ⟨token, others, rfl, Words.cons_mem_single_mul.1 h⟩

theorem Link.map_kind_tokens_iff (part : List Token) :
    part.map Token.kind ∈ Grammar.operator * Words.single .number ↔
      ∃ link, Link.tokens link = part := by
  constructor
  · intro h
    obtain ⟨_, hoperator, _, ⟨_, rfl, rfl⟩, hword⟩ := Language.mem_mul.1 h
    obtain ⟨kind, operator, rfl, hkind⟩ := Grammar.mem_operator_iff.1 hoperator
    obtain ⟨sign, _, rfl, hsign, hoperand⟩ := List.map_eq_cons_iff.1 hword.symm
    obtain ⟨operand, _, rfl, hnumber, hnil⟩ := List.map_eq_cons_iff.1 hoperand
    obtain rfl := List.map_eq_nil_iff.1 hnil
    exact ⟨⟨sign, operand, operator, hsign ▸ hkind, hnumber⟩, rfl⟩
  · rintro ⟨link, rfl⟩
    have hsign := Grammar.mem_operator_iff.2 ⟨_, _, rfl, link.operator?_kind⟩
    refine Language.append_mem_mul hsign (b := [link.operand.kind]) ?_
    rw [link.operand_kind]
    exact Words.singleton_mem_single _

theorem Link.admitted_chain (links : List Link) :
    Grammar.Admitted (some .number) ((Link.chain links).map Token.kind) := by
  induction links with
  | nil => trivial
  | cons link links ih =>
    have hoperator : link.sign.kind.operator? ≠ none := by simp [link.operator?_kind]
    have hoperand :=
      Grammar.follows_of_mem_beforeNumber (Grammar.mem_beforeNumber hoperator) .number
    simp only [Link.chain_cons, List.map_cons, link.operand_kind]
    exact ⟨Grammar.follows_number_iff.2 (.inl hoperator), hoperand, ih⟩

theorem Link.lastOf_chain (links : List Link) :
    Grammar.lastOf (some .number) ((Link.chain links).map Token.kind) = some .number := by
  induction links with
  | nil => rfl
  | cons link links ih => simpa [link.operand_kind] using ih

namespace Phrase

theorem map_kind_tokens_iff (part : List Token) :
    part.map Token.kind ∈ Grammar.statement ↔ ∃ phrase, Phrase.tokens phrase = part := by
  simp only [Grammar.statement, mul_assoc]
  constructor
  · intro h
    obtain ⟨keyword, part, rfl, hkeyword, h⟩ := Grammar.exists_cons_of_map_kind_mem h
    obtain ⟨name, part, rfl, hname, h⟩ := Grammar.exists_cons_of_map_kind_mem h
    obtain ⟨sign, part, rfl, hsign, h⟩ := Grammar.exists_cons_of_map_kind_mem h
    obtain ⟨first, part, rfl, hfirst, h⟩ := Grammar.exists_cons_of_map_kind_mem h
    obtain ⟨links, rfl⟩ := (Words.map_mem_kstar_iff Link.map_kind_tokens_iff).1 h
    exact ⟨⟨keyword, name, sign, first, links, hkeyword, hname, hsign, hfirst⟩, rfl⟩
  · rintro ⟨phrase, rfl⟩
    simp only [tokens, List.map_cons, phrase.keyword_kind, phrase.name_kind, phrase.sign_kind,
      phrase.first_kind, Words.cons_mem_single_mul, true_and]
    exact (Words.map_mem_kstar_iff Link.map_kind_tokens_iff).2 ⟨phrase.links, rfl⟩

/-- The rows of tokens whose kinds form a program are those of a list of phrases. -/
theorem map_kind_mem_program_iff {tokens : List Token} :
    tokens.map Token.kind ∈ Grammar.program ↔ ∃ phrases, row phrases = tokens :=
  Words.map_mem_kstar_iff map_kind_tokens_iff

theorem admitted_tokens {previous : Option Kind} (phrase : Phrase)
    (hprevious : Grammar.follows previous .letKeyword) :
    Grammar.Admitted previous (phrase.tokens.map Token.kind) := by
  simp only [tokens, List.map_cons, phrase.keyword_kind, phrase.name_kind, phrase.sign_kind,
    phrase.first_kind]
  exact ⟨hprevious, rfl, rfl, rfl, Link.admitted_chain phrase.links⟩

theorem lastOf_tokens (previous : Option Kind) (phrase : Phrase) :
    Grammar.lastOf previous (phrase.tokens.map Token.kind) = some .number := by
  simp only [tokens, List.map_cons, Grammar.lastOf_cons, phrase.first_kind]
  exact Link.lastOf_chain phrase.links

/-- A chain that is followed by no operator can be told from what is behind it. -/
theorem chain_append_inj {links links' : List Link} {behind behind' : List Token}
    (hbehind : ∀ token, behind.head? = some token → token.kind.operator? = none)
    (hbehind' : ∀ token, behind'.head? = some token → token.kind.operator? = none)
    (h : Link.chain links ++ behind = Link.chain links' ++ behind') :
    links = links' ∧ behind = behind' := by
  induction links generalizing links' with
  | nil =>
    cases links' with
    | nil => exact ⟨rfl, h⟩
    | cons link' links' =>
      have hnone := hbehind link'.sign (by simp [show behind = _ from h])
      rw [link'.operator?_kind] at hnone
      cases hnone
  | cons link links ih =>
    cases links' with
    | nil =>
      have hnone := hbehind' link.sign (by simp [← show _ = behind' from h])
      rw [link.operator?_kind] at hnone
      cases hnone
    | cons link' links' =>
      simp only [Link.chain_cons, List.cons_append, List.cons.injEq] at h
      obtain ⟨hsign, hoperand, htail⟩ := h
      obtain ⟨rfl, rfl⟩ := ih htail
      refine ⟨?_, rfl⟩
      obtain ⟨sign, operand, operator, hoperator, hkind⟩ := link
      obtain ⟨sign', operand', operator', hoperator', hkind'⟩ := link'
      obtain rfl := hsign
      obtain rfl := hoperand
      obtain rfl := Option.some.inj (hoperator.symm.trans hoperator')
      rfl

private theorem operator?_head?_row {phrases : List Phrase} {token : Token}
    (h : (row phrases).head? = some token) : token.kind.operator? = none := by
  cases phrases with
  | nil => cases h
  | cons phrase phrases =>
    obtain rfl := Option.some.inj h
    rw [phrase.keyword_kind]
    rfl

/-- A row of tokens is the row of one list of phrases only. -/
theorem row_inj {phrases phrases' : List Phrase} (h : row phrases = row phrases') :
    phrases = phrases' := by
  induction phrases generalizing phrases' with
  | nil =>
    cases phrases' with
    | nil => rfl
    | cons phrase' phrases' => cases h
  | cons phrase phrases ih =>
    cases phrases' with
    | nil => cases h
    | cons phrase' phrases' =>
      simp only [row, List.flatMap_cons, tokens, List.cons_append, List.cons.injEq] at h
      obtain ⟨hkeyword, hname, hsign, hfirst, hbehind⟩ := h
      obtain ⟨hlinks, hrow⟩ :=
        chain_append_inj (fun _ => operator?_head?_row) (fun _ => operator?_head?_row) hbehind
      obtain rfl := ih hrow
      congr 1
      cases phrase
      cases phrase'
      simp_all

end Phrase

end LetArith
