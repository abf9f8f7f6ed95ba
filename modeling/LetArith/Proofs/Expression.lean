import LetArith.Parser
import LetArith.Proofs.Layers
import LetArith.Proofs.Reading

namespace LetArith.Parser

open Lexer (Reads Within)

/-- What comes of extending a tree to the right, beginning at a lexer. -/
inductive Extends (least : Int) (left : Node) (l : Lexer) : Step Node → Prop
  /-- The chain ends before a token that continues nothing. -/
  | done (links : List Link) {stop : Token} {l₁ behind : Lexer}
      (hreads : Reads l (Link.chain links) l₁)
      (hbinds : ∀ link ∈ links, least ≤ link.operator.leftPower)
      (hstop : l₁.next = .ok stop behind) (hcontinues : continues? least stop = none) :
      Extends least left l (.ok (layered left links) l₁)
  /-- An operator that continues the chain is followed by a token that is no number. -/
  | broken (links : List Link) {sign wrong : Token} {l₁ l₂ : Lexer}
      (hreads : Reads l (Link.chain links ++ [sign]) l₁)
      (hbinds : ∀ link ∈ links, least ≤ link.operator.leftPower)
      (hcontinues : continues? least sign ≠ none)
      (hwrong : l₁.next = .ok wrong l₂) (hkind : wrong.kind ≠ .number) :
      Extends least left l (.error (.syntactic (.unexpected wrong "a number")) l₂)

theorem continues?_eq_some_iff {least : Int} {token : Token} {operator : Operator} :
    continues? least token = some operator ↔
      token.kind.operator? = some operator ∧ least ≤ operator.leftPower := by
  simp [continues?, Option.filter_eq_some_iff]

theorem not_le_leftPower_of_continues? {least : Int} {token : Token} {operator : Operator}
    (hstop : continues? least token = none) (hoperator : token.kind.operator? = some operator) :
    ¬ least ≤ operator.leftPower := by
  intro hle
  rw [continues?_eq_some_iff.2 ⟨hoperator, hle⟩] at hstop
  cases hstop

private theorem continues?_ne_none_of_le {least lower : Int} {token : Token} (hle : lower ≤ least)
    (h : continues? least token ≠ none) : continues? lower token ≠ none := by
  obtain ⟨operator, hoperator⟩ := Option.ne_none_iff_exists'.1 h
  obtain ⟨hkind, hpower⟩ := continues?_eq_some_iff.1 hoperator
  rw [continues?_eq_some_iff.2 ⟨hkind, Int.le_trans hle hpower⟩]
  simp

theorem primary_eq {l l' : Lexer} {token : Token} (h : l.next = .ok token l') :
    primary l =
      if token.kind = .number then .ok token.leaf l'
      else .error (.syntactic (.unexpected token "a number")) l' := by
  simp only [primary, bind, EStateM.bind, h]
  split <;> rfl

theorem Operator.leftPower_lt_rightPower (operator : Operator) :
    operator.leftPower < operator.rightPower := by
  cases operator <;> decide

/-- The links that the operand of a link takes bind as tightly as the link has to. -/
theorem le_leftPower_of_mem_cons {least : Int} {link : Link} {inner : List Link}
    (hleast : least ≤ link.operator.leftPower)
    (hbinds : ∀ next ∈ inner, link.operator.rightPower ≤ next.operator.leftPower) :
    ∀ next ∈ link :: inner, least ≤ next.operator.leftPower := by
  have hpowers := Operator.leftPower_lt_rightPower link.operator
  intro next hnext
  rcases List.mem_cons.1 hnext with rfl | hnext
  · exact hleast
  · have hinner := hbinds next hnext
    omega

private theorem reads_chain_head {l l' : Lexer} {links : List Link} {link : Link} {stop : Token}
    {behind : Lexer} (hreads : Reads l (Link.chain links) l') (hhead : links.head? = some link)
    (hstop : l.next = .ok stop behind) : link.sign = stop := by
  cases links with
  | nil => cases hhead
  | cons first rest =>
    obtain rfl := Option.some.inj hhead
    cases hreads with
    | cons hnext _ =>
      rw [hstop] at hnext
      exact (EStateM.Result.ok.inj hnext).1.symm

/-- A link before an extension belongs to it: the operand of the link has taken the links that bind
    as tightly as its right power asks, and the joined tree is extended behind them. -/
theorem Extends.cons {least : Int} {left : Node} {l l₁ l₂ : Lexer}
    (link : Link) {inner : List Link} {stop : Token} {behind : Lexer} {step : Step Node}
    (hlink : Reads l link.tokens l₁) (hleast : least ≤ link.operator.leftPower)
    (hinner : Reads l₁ (Link.chain inner) l₂)
    (hbinds : ∀ next ∈ inner, link.operator.rightPower ≤ next.operator.leftPower)
    (hstop : l₂.next = .ok stop behind)
    (hcontinues : continues? link.operator.rightPower stop = none)
    (h : Extends least (left.join link.operator (layered link.operand.leaf inner)) l₂ step) :
    Extends least left l step := by
  have hreads₂ : Reads l (Link.chain (link :: inner)) l₂ := hlink.append hinner
  have hbinds₂ := le_leftPower_of_mem_cons hleast hbinds
  cases h with
  | @done outer stop' l₃ behind' houter hbinds' hstop' hcontinues' =>
    have hhead : ∀ next, outer.head? = some next →
        ¬ link.operator.rightPower ≤ next.operator.leftPower := by
      intro next hnext
      have hsign := reads_chain_head houter hnext hstop
      exact not_le_leftPower_of_continues? hcontinues (hsign ▸ next.operator?_kind)
    rw [← layered_cons_append left hbinds hhead]
    refine .done _ ?_ (List.forall_mem_append.2 ⟨hbinds₂, hbinds'⟩) hstop' hcontinues'
    simpa [Link.chain] using hreads₂.append houter
  | @broken outer sign wrong l₃ l₄ houter hbinds' hcontinues' hwrong hkind =>
    refine .broken (link :: (inner ++ outer)) ?_ (List.forall_mem_append.2 ⟨hbinds₂, hbinds'⟩)
      hcontinues' hwrong hkind
    simpa [Link.chain] using hreads₂.append houter

/-- Extending a tree comes to an end in one of the two ways. The operand of every operator is itself
    read with a threshold, so the operator that ends an inner reading is taken by an outer one. -/
theorem extends_extend (least : Int) (left : Node) {l : Lexer} (hwithin : l.Within) :
    Extends least left l (extend least left l) := by
  induction hremaining : l.remaining using Nat.strongRecOn generalizing least left l with
  | _ n ih =>
    obtain ⟨sign, l₁, hsign⟩ := Lexer.exists_next hwithin
    rw [extend_eq]
    simp only [hsign]
    cases hcontinues : continues? least sign with
    | none => exact .done [] (.nil (.refl l)) (by simp) hsign hcontinues
    | some operator =>
      have hlt := Lexer.remaining_next_lt hsign (kind_ne_endOfInput_of_continues? hcontinues)
      have hwithin₁ := hwithin.next hsign
      obtain ⟨operand, l₂, hoperand⟩ := Lexer.exists_next hwithin₁
      have hle : l₂.remaining ≤ l₁.remaining := by
        simpa [hoperand, Step.lexer] using Lexer.remaining_next_le l₁
      have hwithin₂ := hwithin₁.next hoperand
      simp only [bind, EStateM.bind, primary_eq hoperand]
      by_cases hnumber : operand.kind = .number
      · simp only [if_pos hnumber]
        obtain ⟨hkind, hleast⟩ := continues?_eq_some_iff.1 hcontinues
        let link : Link := ⟨sign, operand, operator, hkind, hnumber⟩
        have hlink : Reads l link.tokens l₂ := .cons hsign (.one hoperand)
        have hforward := Forward.extend operator.rightPower operand.leaf l₂
        have hright := ih l₂.remaining (by omega) operator.rightPower operand.leaf hwithin₂ rfl
        generalize extend operator.rightPower operand.leaf l₂ = step at hforward hright
        cases hright with
        | @done inner stop l₃ behind hinner hbinds hstop hcontinues' =>
          simp only [Step.lexer] at hforward
          have houter := ih l₃.remaining (by omega) least
            (left.join operator (layered operand.leaf inner)) (hinner.within hwithin₂) rfl
          exact .cons link hlink hleast hinner hbinds hstop hcontinues' houter
        | @broken inner sign' wrong l₃ l₄ hinner hbinds hcontinues' hwrong hkind' =>
          have hpowers := Operator.leftPower_lt_rightPower operator
          refine .broken (link :: inner) ?_ (le_leftPower_of_mem_cons hleast hbinds)
            (continues?_ne_none_of_le (by omega) hcontinues') hwrong hkind'
          simpa [Link.chain] using hlink.append hinner
      · rw [if_neg hnumber]
        exact .broken [] (.one hsign) (by simp) (by simp [hcontinues]) hoperand hnumber

end LetArith.Parser
