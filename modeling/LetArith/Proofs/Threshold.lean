import LetArith.Proofs.Expression
import LetArith.Proofs.Phrase

namespace LetArith

/-- What an expression takes of a row of tokens behind its first number. -/
structure Taken where
  /-- The operators that are followed by a number, each with that number. -/
  links : List Link
  /-- The operator that is followed by another token, with that token. -/
  broken : Option (Token × Token)

namespace Taken

/-- The tokens that are taken, in their order. -/
def tokens (taken : Taken) : List Token :=
  Link.chain taken.links ++ taken.broken.elim [] fun (sign, wrong) => [sign, wrong]

/-- The tree in two layers over the operands that are taken, or the error of the first one that is
    no number. -/
def answer (taken : Taken) (first : Token) (l : Lexer) : Step Node :=
  match taken.broken with
  | none => .ok (layered first.leaf taken.links) l
  | some (_, wrong) => .error (.syntactic (.unexpected wrong "a number")) l

/-- What a threshold takes of a row of tokens. -/
def ofRow (least : Int) : List Token → Taken
  | sign :: operand :: behind =>
    match hoperator : sign.kind.operator? with
    | none => ⟨[], none⟩
    | some operator =>
      if least ≤ operator.leftPower then
        if hnumber : operand.kind = .number then
          let more := ofRow least behind
          ⟨⟨sign, operand, operator, hoperator, hnumber⟩ :: more.links, more.broken⟩
        else ⟨[], some (sign, operand)⟩
      else ⟨[], none⟩
  | _ => ⟨[], none⟩

private theorem ofRow_of_loose {least : Int} {stop : Token} (behind : List Token)
    (hloose : ∀ operator, stop.kind.operator? = some operator → ¬ least ≤ operator.leftPower) :
    ofRow least (stop :: behind) = ⟨[], none⟩ := by
  cases behind with
  | nil => rfl
  | cons operand behind =>
    rw [ofRow]
    split
    · rfl
    · next operator hoperator => rw [if_neg (hloose operator hoperator)]

private theorem ofRow_of_broken {least : Int} {sign wrong : Token} {operator : Operator}
    (behind : List Token) (hoperator : sign.kind.operator? = some operator)
    (htight : least ≤ operator.leftPower) (hkind : wrong.kind ≠ .number) :
    ofRow least (sign :: wrong :: behind) = ⟨[], some (sign, wrong)⟩ := by
  rw [ofRow]
  split
  · next hnone =>
    rw [hoperator] at hnone
    cases hnone
  · next operator' hsome =>
    obtain rfl := Option.some.inj (hoperator.symm.trans hsome)
    rw [if_pos htight, dif_neg hkind]

theorem ofRow_link {least : Int} (link : Link) (behind : List Token)
    (htight : least ≤ link.operator.leftPower) :
    ofRow least (link.sign :: link.operand :: behind) =
      ⟨link :: (ofRow least behind).links, (ofRow least behind).broken⟩ := by
  obtain ⟨sign, operand, operator, hoperator, hnumber⟩ := link
  simp only
  rw [ofRow]
  split
  · next hnone =>
    rw [hoperator] at hnone
    cases hnone
  · next operator' hsome =>
    obtain rfl := Option.some.inj (hoperator.symm.trans hsome)
    rw [if_pos htight, dif_pos hnumber]

theorem ofRow_chain {least : Int} {links : List Link} (behind : List Token)
    (htight : ∀ link ∈ links, least ≤ link.operator.leftPower) :
    ofRow least (Link.chain links ++ behind) =
      ⟨links ++ (ofRow least behind).links, (ofRow least behind).broken⟩ := by
  induction links with
  | nil => rfl
  | cons link links ih =>
    obtain ⟨hlink, hlinks⟩ := List.forall_mem_cons.1 htight
    rw [Link.chain_cons, List.cons_append, List.cons_append, ofRow_link link _ hlink, ih hlinks]
    rfl

/-- Raising the threshold ends a row of links earlier, and changes none of them. -/
theorem links_isPrefix {least greater : Int} (hle : least ≤ greater) (row : List Token) :
    (ofRow greater row).links <+: (ofRow least row).links := by
  fun_induction ofRow greater row with
  | case1 | case3 | case4 | case5 => exact List.nil_prefix
  | case2 sign operand behind operator hoperator htight hnumber more ih =>
    have hlink := ofRow_link ⟨sign, operand, operator, hoperator, hnumber⟩ behind
      (Int.le_trans hle htight)
    simp only at hlink
    rw [hlink]
    exact List.cons_prefix_cons.2 ⟨rfl, ih⟩

private theorem tokens_of_broken_eq_none {taken : Taken} (h : taken.broken = none) :
    taken.tokens = Link.chain taken.links := by
  simp [tokens, h]

private theorem broken_eq_none_of_answer {taken : Taken} {first : Token} {l l' : Lexer}
    {tree : Node}
    (h : taken.answer first l = .ok tree l') : taken.broken = none := by
  unfold answer at h
  split at h
  · assumption
  · cases h

end Taken

theorem Link.kind_ne_endOfInput_of_mem_chain {links : List Link} {token : Token}
    (h : token ∈ Link.chain links) : token.kind ≠ .endOfInput := by
  obtain ⟨link, -, hlink⟩ := List.mem_flatMap.1 h
  simp only [Link.tokens, List.mem_cons, List.not_mem_nil, or_false] at hlink
  rcases hlink with rfl | rfl
  · intro hend
    have hoperator := link.operator?_kind
    rw [hend] at hoperator
    cases hoperator
  · simp [link.operand_kind]

namespace Lexer

/-- A token can be read only from a place that the text has. -/
theorem within_of_next {l l' : Lexer} {token : Token} (h : l.next = .ok token l') : l.Within := by
  obtain ⟨cursor, hfound, -⟩ := next_eq_ok_iff.1 h
  by_cases hposition : 0 ≤ l.cursor.position
  · exact within_of_nonneg hposition
  · by_contra hnot
    rw [Within] at hnot
    rw [tokenAt?, if_neg hposition, characterAt?, if_neg hposition, if_neg hnot] at hfound
    cases hfound

/-- No reading that stays before the end of the text is longer than the one up to there. -/
theorem Reads.length_le {l l₁ l₂ m : Lexer} {tokens more : List Token} {last : Token}
    (h : Reads l tokens l₁) (hlast : l₁.next = .ok last l₂) (hend : last.kind = .endOfInput)
    (h' : Reads l more m) (hinside : ∀ token ∈ more, token.kind ≠ .endOfInput) :
    more.length ≤ tokens.length := by
  by_contra hnot
  have heq := h.eq_of_length_le hlast hend h' hinside (by omega)
  simp [heq] at hnot

end Lexer

namespace Parser

open Lexer (Reads)

/-- Where a threshold lets an expression end: the answer is that of the row of tokens, the lexer
    stands behind the tokens that are taken, and the first one that is not taken comes next. -/
def EndsAt (least : Int) (first : Token) (row : List Token) (l : Lexer) (step : Step Node) : Prop :=
  let taken := Taken.ofRow least row
  ∃ l', step = taken.answer first l' ∧ Reads l taken.tokens l' ∧
    (taken.broken = none → ∃ stop rest behind,
      row = taken.tokens ++ stop :: rest ∧ l'.next = .ok stop behind)

/-- An extension ends where the threshold lets it. -/
theorem Extends.endsAt {least : Int} {first last : Token} {tokens : List Token}
    {l l₁ l₂ : Lexer} {step : Step Node} (h : Extends least first.leaf l step)
    (hreads : Reads l tokens l₁) (hlast : l₁.next = .ok last l₂)
    (hend : last.kind = .endOfInput) : EndsAt least first (tokens ++ [last]) l step := by
  cases h with
  | @done links stop l₃ behind hchain htight hstop hcontinues =>
    have hlength := hreads.length_le hlast hend hchain fun token htoken =>
      Link.kind_ne_endOfInput_of_mem_chain htoken
    obtain ⟨rest, hrow, -⟩ :=
      (hchain.snoc hstop).split (.refl l) (hreads.snoc hlast) (by simpa using hlength)
    have hloose (operator : Operator) (hoperator : stop.kind.operator? = some operator) :
        ¬ least ≤ operator.leftPower := not_le_leftPower_of_continues? hcontinues hoperator
    have htaken : Taken.ofRow least (tokens ++ [last]) = ⟨links, none⟩ := by
      rw [hrow, List.append_assoc, Taken.ofRow_chain _ htight, List.singleton_append,
        Taken.ofRow_of_loose rest hloose, List.append_nil]
    have htokens : Taken.tokens ⟨links, none⟩ = Link.chain links :=
      Taken.tokens_of_broken_eq_none rfl
    refine ⟨l₃, ?_, ?_, fun _ => ⟨stop, rest, behind, ?_, hstop⟩⟩
    · rw [htaken]
      rfl
    · rwa [htaken, htokens]
    · rw [htaken, htokens, hrow, List.append_assoc, List.singleton_append]
  | @broken links sign wrong l₃ l₄ hchain htight hcontinues hwrong hkind =>
    obtain ⟨operator, hoperator⟩ := Option.ne_none_iff_exists'.1 hcontinues
    obtain ⟨hoperator, hleast⟩ := continues?_eq_some_iff.1 hoperator
    have hinside : ∀ token ∈ Link.chain links ++ [sign], token.kind ≠ .endOfInput := by
      refine List.forall_mem_append.2 ⟨fun _ => Link.kind_ne_endOfInput_of_mem_chain, ?_⟩
      refine List.forall_mem_singleton.2 fun hsign => ?_
      rw [hsign] at hoperator
      cases hoperator
    have hlength := hreads.length_le hlast hend hchain hinside
    obtain ⟨rest, hrow, -⟩ :=
      (hchain.snoc hwrong).split (.refl l) (hreads.snoc hlast) (by simpa using hlength)
    have htaken : Taken.ofRow least (tokens ++ [last]) = ⟨links, some (sign, wrong)⟩ := by
      rw [hrow, List.append_assoc, List.append_assoc, Taken.ofRow_chain _ htight,
        List.singleton_append, List.singleton_append,
        Taken.ofRow_of_broken rest hoperator hleast hkind, List.append_nil]
    refine ⟨l₄, ?_, ?_, ?_⟩
    · rw [htaken]
      rfl
    · have hread := hchain.snoc hwrong
      rw [List.append_assoc] at hread
      rwa [htaken]
    · rw [htaken]
      intro hnone
      cases hnone

/-- Where a number comes next, an expression takes what its threshold lets it take of the tokens
    behind that number, whatever the threshold is. Its answer is the tree in two layers over just
    these operands, or the error of the first operand that is no number, and the lexer is left
    right behind what was taken. A greater threshold never takes more. -/
theorem expression_for_threshold {l l₁ : Lexer} {first : Token} (hfirst : l.next = .ok first l₁)
    (hnumber : first.kind = .number) :
    ∃ tokens last behind, l.drain = .ok (first :: tokens) behind ∧
      behind.next = .ok last behind ∧ last.kind = .endOfInput ∧
      (∀ least, EndsAt least first (tokens ++ [last]) l₁ (expression least l)) ∧
      ∀ least greater, least ≤ greater → ∀ tree tree' l' l'',
        expression least l = .ok tree l' → expression greater l = .ok tree' l'' →
        (Taken.ofRow greater (tokens ++ [last])).tokens <+:
          (Taken.ofRow least (tokens ++ [last])).tokens := by
  have hwithin := (Lexer.within_of_next hfirst).next hfirst
  obtain ⟨tokens, last, l₂, behind, hdrain, hreads, hlast, hend, -⟩ := Lexer.exists_drain hwithin
  have hends (least : Int) : EndsAt least first (tokens ++ [last]) l₁ (expression least l) := by
    simp only [expression, bind, EStateM.bind, primary_eq hfirst, if_pos hnumber]
    exact (extends_extend least first.leaf hwithin).endsAt hreads hlast hend
  refine ⟨tokens, last, behind, ?_, Lexer.next_of_endOfInput hlast hend, hend, hends, ?_⟩
  · rw [Lexer.drain_of_next hfirst, if_neg (by simp [hnumber]), hdrain]
  · intro least greater hle tree tree' l' l'' hleast hgreater
    have hwhole {least : Int} {tree : Node} {l' : Lexer} (h : expression least l = .ok tree l') :
        (Taken.ofRow least (tokens ++ [last])).broken = none := by
      obtain ⟨l'', hanswer, -⟩ := hends least
      exact Taken.broken_eq_none_of_answer (hanswer.symm.trans h)
    rw [Taken.tokens_of_broken_eq_none (hwhole hleast),
      Taken.tokens_of_broken_eq_none (hwhole hgreater)]
    exact (Taken.links_isPrefix hle _).flatMap Link.tokens

/-- Thresholds at the first number of `1*2+3`. -/
theorem expression_for_threshold_before_sum :
    let l := Lexer.ofString "1*2+3"
    let l₁ : Lexer := { l with cursor := ⟨1, 1, 2⟩ }
    let first : Token := ⟨.number, "1", {}⟩
    l.next = .ok first l₁ ∧ first.kind = .number ∧
      ∃ tokens last behind, l.drain = .ok (first :: tokens) behind ∧
        behind.next = .ok last behind ∧ last.kind = .endOfInput ∧
        (∀ least, EndsAt least first (tokens ++ [last]) l₁ (expression least l)) ∧
        ∀ least greater, least ≤ greater → ∀ tree tree' l' l'',
          expression least l = .ok tree l' → expression greater l = .ok tree' l'' →
          (Taken.ofRow greater (tokens ++ [last])).tokens <+:
            (Taken.ofRow least (tokens ++ [last])).tokens := by
  intro l l₁ first
  have hfirst : l.next = .ok first l₁ :=
    Lexer.next_eq_ok_iff.2 ⟨⟨1, 1, 2⟩, by decide +kernel, rfl⟩
  exact ⟨hfirst, rfl, expression_for_threshold hfirst rfl⟩

end Parser

end LetArith
