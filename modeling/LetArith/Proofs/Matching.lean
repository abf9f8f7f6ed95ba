import LetArith.Proofs.Finality

namespace LetArith

open Grammar

section Rows

variable {α β γ : Type} {R S : α → β → Prop}

private theorem exists_append_of_forall₂ {front back : List α} {whole : List β}
    (h : List.Forall₂ R (front ++ back) whole) :
    ∃ front' back', front' ++ back' = whole ∧ List.Forall₂ R front front' ∧
      List.Forall₂ R back back' := by
  have hfront := List.forall₂_take front.length h
  have hback := List.forall₂_drop front.length h
  rw [List.take_left] at hfront
  rw [List.drop_left] at hback
  exact ⟨_, _, List.take_append_drop front.length whole, hfront, hback⟩

theorem map_eq_map_iff_forall₂ {f : α → γ} {g : β → γ} {row : List α} {others : List β} :
    row.map f = others.map g ↔ List.Forall₂ (fun a b => f a = g b) row others := by
  rw [← List.forall₂_eq_eq_eq, List.forall₂_map_left_iff, List.forall₂_map_right_iff]

theorem rel_of_forall₂_getElem? {row : List α} {others : List β} (h : List.Forall₂ R row others)
    {i : Nat} {a : α} {b : β} (ha : row[i]? = some a) (hb : others[i]? = some b) : R a b := by
  obtain ⟨hi, rfl⟩ := List.getElem?_eq_some_iff.1 ha
  obtain ⟨hi', rfl⟩ := List.getElem?_eq_some_iff.1 hb
  exact h.get hi hi'

theorem forall₂_imp_of_mem {row : List α} {others : List β} (h : List.Forall₂ R row others)
    (hstep : ∀ a ∈ row, ∀ b ∈ others, R a b → S a b) : List.Forall₂ S row others := by
  induction h with
  | nil => exact .nil
  | cons hhead _ ih =>
    refine .cons (hstep _ List.mem_cons_self _ List.mem_cons_self hhead) (ih ?_)
    exact fun a ha b hb => hstep a (List.mem_cons_of_mem _ ha) b (List.mem_cons_of_mem _ hb)

theorem forall₂_of_beq [BEq α] {row others : List α} (h : row == others) :
    List.Forall₂ (fun a b => a == b) row others := by
  induction row generalizing others with
  | nil =>
    cases others with
    | nil => exact .nil
    | cons => cases h
  | cons a row ih =>
    cases others with
    | nil => cases h
    | cons b others =>
      rw [List.cons_beq_cons, Bool.and_eq_true] at h
      exact .cons h.1 (ih h.2)

end Rows

/-- Trees of the same shape, names, operators and values, with places that are related. -/
inductive Node.Match (places : Location → Location → Prop) : Node → Node → Prop
  | number {here there : Location} (value : Binary64) (hplaces : places here there) :
      Match places (.number value here) (.number value there)
  | binary {left right left' right' : Node} {here there : Location} (operator : Operator)
      (hleft : Match places left left') (hright : Match places right right')
      (hplaces : places here there) :
      Match places (.binary left operator right here) (.binary left' operator right' there)
  | binding {initial initial' : Node} {here there : Location} (name : String)
      (hinitial : Match places initial initial') (hplaces : places here there) :
      Match places (.binding name initial here) (.binding name initial' there)

/-- Tokens that parsing tells apart by their places alone. -/
structure Token.Match (places : Location → Location → Prop) (token other : Token) : Prop where
  kind_eq : token.kind = other.kind
  name_eq : token.kind = .identifier → token.literal = other.literal
  value_eq : token.kind = .number → token.value = other.value
  places : places token.start.location other.start.location

variable {places : Location → Location → Prop}

namespace Node.Match

variable {node other : Node}

theorem location (h : node.Match places other) : places node.location other.location := by
  cases h <;> assumption

/-- Trees that match place by place are the same. -/
theorem eq (h : node.Match Eq other) : node = other := by
  induction h with
  | number value hplaces => rw [hplaces]
  | binary operator _ _ hplaces ihleft ihright => rw [ihleft, ihright, hplaces]
  | binding name _ hplaces ih => rw [ih, hplaces]

theorem listing_eq (h : node.Match places other) : node.listing = other.listing := by
  induction h with
  | number => rfl
  | binary operator _ _ _ ihleft ihright => rw [listing, listing, ihleft, ihright]
  | binding name _ _ ih => rw [listing, listing, ih]

/-- Trees that match are equal, unless there is a value that does not even equal itself. -/
theorem beq (h : node.Match places other) (hself : node == node) : node == other := by
  induction h with
  | number => exact hself
  | binary operator _ _ _ ihleft ihright =>
    change (Node.beq _ _ && _ && Node.beq _ _) = true at hself ⊢
    simp only [Bool.and_eq_true] at hself ⊢
    exact ⟨⟨ihleft hself.1.1, hself.1.2⟩, ihright hself.2⟩
  | binding name _ _ ih =>
    change (_ && Node.beq _ _) = true at hself ⊢
    simp only [Bool.and_eq_true] at hself ⊢
    exact ⟨hself.1, ih hself.2⟩

end Node.Match

theorem Node.lines_eq_of_match {nodes others : List Node}
    (h : List.Forall₂ (Node.Match places) nodes others) : lines nodes = lines others := by
  have hlistings : nodes.map listing = others.map listing :=
    map_eq_map_iff_forall₂.2 (h.imp fun _ _ hnode => hnode.listing_eq)
  rw [lines, lines, hlistings]

/-- Programs that match place by place are the same. -/
theorem Node.eq_of_match {nodes others : List Node}
    (h : List.Forall₂ (Node.Match Eq) nodes others) : nodes = others := by
  rw [← List.forall₂_eq_eq_eq]
  exact h.imp fun _ _ hnode => hnode.eq

theorem Node.beq_of_match {nodes others : List Node}
    (h : List.Forall₂ (Node.Match places) nodes others) (hself : nodes == nodes) :
    nodes == others := by
  induction h with
  | nil => rfl
  | cons hnode _ ih =>
    rw [List.cons_beq_cons, Bool.and_eq_true] at hself ⊢
    exact ⟨hnode.beq hself.1, ih hself.2⟩

/-- A program that was read equals itself, since no text has a number that does not. -/
theorem beq_self_of_parse {text : String} {nodes : List Node} (hparse : parse text = .ok nodes) :
    nodes == nodes := by
  obtain ⟨hproper, hspelling⟩ := mem_spellings_of_parse hparse
  obtain ⟨parsed, hparsed, hbeq⟩ := exists_parse_of_mem_spellings hproper hspelling
  rwa [Except.ok.inj (hparsed.symm.trans hparse)] at hbeq

theorem Token.map_kind_eq_of_match {tokens others : List Token}
    (h : List.Forall₂ (Token.Match places) tokens others) :
    tokens.map Token.kind = others.map Token.kind :=
  map_eq_map_iff_forall₂.2 (h.imp fun _ _ htoken => htoken.kind_eq)

section Layers

theorem Token.Match.leaf {token other : Token} (h : token.Match places other)
    (hkind : token.kind = .number) : token.leaf.Match places other.leaf := by
  have hvalue := h.value_eq hkind
  rw [Token.leaf, Token.leaf, ← Token.value, ← Token.value, hvalue]
  exact .number _ h.places

/-- Links that join by the same operator, and with matching operands. -/
structure Link.Match (places : Location → Location → Prop) (link other : Link) : Prop where
  sign : link.sign.Match places other.sign
  operand : link.operand.Match places other.operand

theorem Link.Match.operator_eq {link other : Link} (h : link.Match places other) :
    link.operator = other.operator := by
  have hoperator := link.operator?_kind
  rw [h.sign.kind_eq, other.operator?_kind] at hoperator
  exact (Option.some.inj hoperator).symm

theorem Node.Match.join {left left' right right' : Node} {link other : Link}
    (hlink : link.Match places other) (hleft : left.Match places left')
    (hright : right.Match places right') :
    (left.join link.operator right).Match places (left'.join other.operator right') := by
  rw [← hlink.operator_eq]
  exact .binary _ hleft hright hleft.location

private theorem product_match {first first' : Node} {factors factors' : List Link}
    (hfirst : first.Match places first')
    (hfactors : List.Forall₂ (Link.Match places) factors factors') :
    (product first factors).Match places (product first' factors') := by
  induction hfactors generalizing first first' with
  | nil => exact hfirst
  | @cons factor factor' _ _ hfactor _ ih =>
    exact ih (.join hfactor hfirst (hfactor.operand.leaf factor.operand_kind))

/-- Summands that join by the same operator, and with matching terms. -/
structure Summand.Match (places : Location → Location → Prop) (summand other : Summand) : Prop where
  head : summand.head.Match places other.head
  factors : List.Forall₂ (Link.Match places) summand.factors other.factors

private theorem terms_match {links links' : List Link}
    (hlinks : List.Forall₂ (Link.Match places) links links') :
    List.Forall₂ (Link.Match places) (terms links).1 (terms links').1 ∧
      List.Forall₂ (Summand.Match places) (terms links).2 (terms links').2 := by
  induction hlinks with
  | nil => exact ⟨.nil, .nil⟩
  | @cons link link' _ _ hlink _ ih =>
    simp only [terms, ← hlink.operator_eq]
    split
    · exact ⟨.cons hlink ih.1, ih.2⟩
    · exact ⟨.nil, .cons ⟨hlink, ih.1⟩ ih.2⟩

private theorem sum_match {first first' : Node} {summands summands' : List Summand}
    (hfirst : first.Match places first')
    (hsummands : List.Forall₂ (Summand.Match places) summands summands') :
    (sum first summands).Match places (sum first' summands') := by
  induction hsummands generalizing first first' with
  | nil => exact hfirst
  | @cons summand summand' _ _ hsummand _ ih =>
    have hleaf := hsummand.head.operand.leaf summand.head.operand_kind
    exact ih (.join hsummand.head hfirst (product_match hleaf hsummand.factors))

private theorem layered_match {first first' : Node} {links links' : List Link}
    (hfirst : first.Match places first')
    (hlinks : List.Forall₂ (Link.Match places) links links') :
    (layered first links).Match places (layered first' links') :=
  sum_match (product_match hfirst (terms_match hlinks).1) (terms_match hlinks).2

end Layers

section Phrases

theorem Link.exists_match {links : List Link} {others : List Token}
    (h : List.Forall₂ (Token.Match places) (chain links) others) :
    ∃ links', chain links' = others ∧ List.Forall₂ (Link.Match places) links links' := by
  induction links generalizing others with
  | nil =>
    cases h
    exact ⟨[], rfl, .nil⟩
  | cons link links ih =>
    rw [chain_cons] at h
    obtain ⟨sign, _, hsign, hbehind, rfl⟩ := List.forall₂_cons_left_iff.1 h
    obtain ⟨operand, _, hoperand, hchain, rfl⟩ := List.forall₂_cons_left_iff.1 hbehind
    obtain ⟨links', rfl, hlinks⟩ := ih hchain
    refine ⟨⟨sign, operand, link.operator, ?_, ?_⟩ :: links', rfl, .cons ⟨hsign, hoperand⟩ hlinks⟩
    · rw [← hsign.kind_eq, link.operator?_kind]
    · rw [← hoperand.kind_eq, link.operand_kind]

namespace Phrase

/-- The tokens that match those of a phrase are those of a phrase whose binding matches. -/
theorem exists_match {phrase : Phrase} {others : List Token}
    (h : List.Forall₂ (Token.Match places) phrase.tokens others) :
    ∃ phrase', tokens phrase' = others ∧ phrase.node.Match places phrase'.node := by
  rw [tokens] at h
  obtain ⟨keyword, _, hkeyword, h₁, rfl⟩ := List.forall₂_cons_left_iff.1 h
  obtain ⟨name, _, hname, h₂, rfl⟩ := List.forall₂_cons_left_iff.1 h₁
  obtain ⟨sign, _, hsign, h₃, rfl⟩ := List.forall₂_cons_left_iff.1 h₂
  obtain ⟨first, _, hfirst, h₄, rfl⟩ := List.forall₂_cons_left_iff.1 h₃
  obtain ⟨links, rfl, hlinks⟩ := Link.exists_match h₄
  refine ⟨⟨keyword, name, sign, first, links, hkeyword.kind_eq ▸ phrase.keyword_kind,
    hname.kind_eq ▸ phrase.name_kind, hsign.kind_eq ▸ phrase.sign_kind,
    hfirst.kind_eq ▸ phrase.first_kind⟩, rfl, ?_⟩
  rw [node, node, hname.name_eq phrase.name_kind]
  exact .binding _ (layered_match (hfirst.leaf phrase.first_kind) hlinks) hkeyword.places

private theorem exists_row_match {phrases : List Phrase} {others : List Token}
    (h : List.Forall₂ (Token.Match places) (row phrases) others) :
    ∃ phrases', row phrases' = others ∧
      List.Forall₂ (Node.Match places) (phrases.map node) (phrases'.map node) := by
  induction phrases generalizing others with
  | nil =>
    cases h
    exact ⟨[], rfl, .nil⟩
  | cons phrase phrases ih =>
    rw [row, List.flatMap_cons] at h
    obtain ⟨_, _, rfl, hfront, hback⟩ := exists_append_of_forall₂ h
    obtain ⟨phrase', rfl, hnode⟩ := exists_match hfront
    obtain ⟨phrases', rfl, hnodes⟩ := ih hback
    exact ⟨phrase' :: phrases', rfl, .cons hnode hnodes⟩

end Phrase

end Phrases

/-- The tokens of a text are the ones up to its end, without the last. -/
theorem exists_tokenize_of_tokensToEnd {text : String} {tokens : List Token}
    (h : tokensToEnd text = .ok tokens) :
    ∃ front last, tokenize text = .ok front ∧ tokens = front ++ [last] := by
  obtain ⟨htokenize, htokensToEnd⟩ := tokens_eq text
  exact ⟨_, _, htokenize, Except.ok.inj (h.symm.trans htokensToEnd)⟩

/-- Texts with matching tokens are parsed to matching trees, or refused at the tokens of one index
    with the same kind of token before them. -/
theorem parse_match {text other : String} {tokens others : List Token}
    (htokens : tokensToEnd text = .ok tokens) (hothers : tokensToEnd other = .ok others)
    (hmatch : List.Forall₂ (Token.Match places) tokens others) :
    (∃ nodes nodes', parse text = .ok nodes ∧ parse other = .ok nodes' ∧
      List.Forall₂ (Node.Match places) nodes nodes') ∨
    ∃ (previous : Option Kind) (i : Nat) (wrong wrong' : Token),
      tokens[i]? = some wrong ∧ others[i]? = some wrong' ∧ wrong.Match places wrong' ∧
      parse text = .error (.syntactic (offence previous wrong)) ∧
      parse other = .error (.syntactic (offence previous wrong')) := by
  obtain ⟨front, last, -, htokens', -, hcases⟩ := parse_cases text
  obtain rfl := Except.ok.inj (htokens'.symm.trans htokens)
  rcases hcases with ⟨phrases, rfl, hparse⟩ |
    ⟨before, wrong, after, hsplit, hadmitted, hfollows, hparse⟩
  · obtain ⟨front', last', htokenize, rfl⟩ := exists_tokenize_of_tokensToEnd hothers
    obtain ⟨row', back, happend, hrow, hback⟩ := exists_append_of_forall₂ hmatch
    have hlength : back.length = [last'].length := hback.length_eq.symm
    obtain ⟨rfl, -⟩ := List.append_inj' happend hlength
    obtain ⟨phrases', rfl, hnodes⟩ := Phrase.exists_row_match hrow
    exact .inl ⟨_, _, hparse, parse_of_row htokenize, hnodes⟩
  · rw [hsplit] at hmatch ⊢
    obtain ⟨before', _, rfl, hbefore, hbehind⟩ := exists_append_of_forall₂ hmatch
    obtain ⟨wrong', after', hwrong, -, rfl⟩ := List.forall₂_cons_left_iff.1 hbehind
    rw [Token.map_kind_eq_of_match hbefore] at hadmitted hfollows hparse
    rw [hwrong.kind_eq] at hfollows
    refine .inr ⟨_, before.length, wrong, wrong', ?_, ?_, hwrong, hparse,
      parse_of_offence hothers hadmitted hfollows⟩
    · rw [List.getElem?_append_right le_rfl, Nat.sub_self]
      rfl
    · rw [hbefore.length_eq, List.getElem?_append_right le_rfl, Nat.sub_self]
      rfl

section Words

theorem Token.match_of_word_eq {token other : Token} (hword : token.word = other.word)
    (hplaces : places token.start.location other.start.location) : token.Match places other := by
  obtain ⟨hkind, hliteral⟩ := Prod.mk.inj hword
  refine ⟨hkind, fun _ => hliteral, fun _ => ?_, hplaces⟩
  rw [value, value, hliteral]

/-- The error of a token that cannot follow is told by its kind and its literal, but for the token
    itself. -/
theorem Grammar.offence_eq_of_word_eq {wrong wrong' : Token} (previous : Option Kind)
    (hword : wrong.word = wrong'.word) :
    offence previous wrong' = { offence previous wrong with token := some wrong' } := by
  obtain ⟨kind, literal, start⟩ := wrong
  obtain ⟨kind', literal', start'⟩ := wrong'
  obtain ⟨rfl, rfl⟩ : kind = kind' ∧ literal = literal' := Prod.mk.inj hword
  rfl

/-- A message tells no more of a token than its line and its column. -/
theorem ParseError.message_eq_of_location_eq (error : ParseError) {token other : Token}
    (hlocation : token.start.location = other.start.location) :
    { error with token := some token }.message = { error with token := some other }.message := by
  obtain ⟨hline, hcolumn⟩ := Location.mk.inj hlocation
  have hplace : place token = place other := by rw [place, place, hline, hcolumn]
  simp only [message, Option.toList_some, List.map_cons, hplace]

/-- What parsing makes of two texts with these tokens, up to places: programs that are equal, or
    errors of one sort with the same detail and the same expectation, at the tokens of one index. -/
inductive ReadAlike (tokens others : List Token) :
    Except Fault (List Node) → Except Fault (List Node) → Prop
  | programs {nodes nodes' : List Node} (hequal : nodes == nodes') :
      ReadAlike tokens others (.ok nodes) (.ok nodes')
  | refusals {error error' : ParseError} {wrong wrong' : Token} (i : Nat)
      (hwrong : tokens[i]? = some wrong) (htoken : error.token = some wrong)
      (hwrong' : others[i]? = some wrong') (htoken' : error'.token = some wrong')
      (hkind : error.kind = error'.kind) (hdetail : error.detail = error'.detail)
      (hexpected : error.expected = error'.expected) :
      ReadAlike tokens others (.error (.syntactic error)) (.error (.syntactic error'))

/-- Texts with the same kinds and literals are read alike. -/
theorem readAlike_of_map_word_eq {text other : String} {tokens others : List Token}
    (htokens : tokensToEnd text = .ok tokens) (hothers : tokensToEnd other = .ok others)
    (hwords : tokens.map Token.word = others.map Token.word) :
    ReadAlike tokens others (parse text) (parse other) := by
  rw [map_eq_map_iff_forall₂] at hwords
  have hmatch : List.Forall₂ (Token.Match fun _ _ => True) tokens others :=
    hwords.imp fun _ _ hword => Token.match_of_word_eq hword trivial
  rcases parse_match htokens hothers hmatch with
    ⟨nodes, nodes', hparse, hparse', hnodes⟩ |
    ⟨previous, i, wrong, wrong', hwrong, hwrong', -, hparse, hparse'⟩
  · rw [hparse, hparse']
    exact .programs (Node.beq_of_match hnodes (beq_self_of_parse hparse))
  · have hword : wrong.word = wrong'.word := rel_of_forall₂_getElem? hwords hwrong hwrong'
    rw [hparse, hparse', offence_eq_of_word_eq previous hword]
    exact .refusals i hwrong rfl hwrong' rfl rfl rfl rfl

end Words

end LetArith
