import LetArith.Parser

namespace LetArith

/-- What comes of a step: an answer or a fault of some property, and in both cases a lexer of some
    property. -/
def Step.Satisfies {α : Type} (answer : α → Prop) (fault : Fault → Prop) (lexer : Lexer → Prop) :
    Step α → Prop
  | .ok a l => answer a ∧ lexer l
  | .error f l => fault f ∧ lexer l

/-- What comes of one parser behind another, as far as the first gets. -/
theorem Step.Satisfies.bind {α β : Type} {P : α → Prop} {Q : β → Prop} {fault : Fault → Prop}
    {lexer : Lexer → Prop} {p : EStateM Fault Lexer α} {q : α → EStateM Fault Lexer β} {l : Lexer}
    (hp : Step.Satisfies P fault lexer (p l))
    (hq : ∀ a l', p l = .ok a l' → P a → lexer l' → Step.Satisfies Q fault lexer (q a l')) :
    Step.Satisfies Q fault lexer ((p >>= q) l) := by
  simp only [Bind.bind, EStateM.bind]
  cases hrun : p l with
  | ok a l' =>
    rw [hrun] at hp
    exact hq a l' hrun hp.1 hp.2
  | error f l' =>
    rw [hrun] at hp
    exact hp

theorem Lexer.peek_of_next {l : Lexer} {answer : Token → Prop} {fault : Fault → Prop}
    {lexer : Lexer → Prop} (hlexer : lexer l) (hnext : l.next.Satisfies answer fault lexer) :
    l.peek.Satisfies answer fault lexer := by
  rw [next] at hnext
  rw [peek]
  cases hscan : l.scan with
  | ok token behind =>
    rw [hscan] at hnext
    exact ⟨hnext.1, hlexer⟩
  | error f behind =>
    rw [hscan] at hnext
    exact ⟨hnext.1, hlexer⟩

namespace Parser

theorem Forward.remaining_le {α : Type} {p : Parser α} (hp : Forward p) {l l' : Lexer} {a : α}
    (hrun : p l = .ok a l') : l'.remaining ≤ l.remaining := by
  have hforward := hp l
  rwa [hrun] at hforward

/-- What reading a token keeps and promises, as far as it concerns parsers: they do nothing to a lexer
    but to read tokens and to note what they have read, and their own faults are about tokens that
    they have read. -/
structure Contract where
  lexer : Lexer → Prop
  token : Token → Prop
  fault : Fault → Prop
  next : ∀ l, lexer l → l.next.Satisfies token fault lexer
  unexpected : ∀ wrong expected, token wrong → fault (.syntactic (.unexpected wrong expected))
  unsupported : ∀ wrong, token wrong → fault (.syntactic (.unsupported wrong))

/-- What a lexer has by a contract it has after events are noted, too. Only parsers of whole
    statements note any, so the others keep contracts of which this does not hold. -/
def Contract.Lasts (contract : Contract) : Prop :=
  ∀ l event, contract.lexer l → contract.lexer (l.note event)

/-- A parser keeps a contract and answers what has a property. -/
def Contract.Kept {α : Type} (contract : Contract) (answer : α → Prop) (p : Parser α) : Prop :=
  ∀ l, contract.lexer l → Step.Satisfies answer contract.fault contract.lexer (p l)

namespace Contract.Kept

variable {α β : Type} {contract : Contract} {P : α → Prop} {Q : β → Prop}

theorem pure {a : α} (ha : P a) : contract.Kept P (pure a : Parser α) :=
  fun _ hlexer => ⟨ha, hlexer⟩

theorem throw {fault : Fault} (hfault : contract.fault fault) :
    contract.Kept P (throw fault : Parser α) :=
  fun _ hlexer => ⟨hfault, hlexer⟩

theorem bind {p : Parser α} {q : α → Parser β} (hp : contract.Kept P p)
    (hq : ∀ a, P a → contract.Kept Q (q a)) : contract.Kept Q (p >>= q) :=
  fun l hlexer => (hp l hlexer).bind fun a l' _ ha hlexer' => hq a ha l' hlexer'

theorem ite {c : Prop} [Decidable c] {p q : Parser α} (hp : contract.Kept P p)
    (hq : contract.Kept P q) : contract.Kept P (if c then p else q) := by
  split <;> assumption

theorem next : contract.Kept contract.token (Lexer.next : Parser Token) := contract.next

theorem peek : contract.Kept contract.token (Lexer.peek : Parser Token) :=
  fun l hlexer => Lexer.peek_of_next hlexer (contract.next l hlexer)

theorem note (hlasts : contract.Lasts) (event : Event) :
    contract.Kept (fun _ => True) (Parser.note event) :=
  fun l hlexer => ⟨trivial, hlasts l event hlexer⟩

theorem expect (kind : Kind) (expected : String) :
    contract.Kept contract.token (Parser.expect kind expected) :=
  .bind .next fun _ htoken => .ite (.pure htoken) (.throw (contract.unexpected _ _ htoken))

theorem demand (kind : Kind) (expected : String) :
    contract.Kept (fun _ => True) (Parser.demand kind expected) :=
  .bind .peek fun _ htoken => .ite (.pure trivial) (.throw (contract.unexpected _ _ htoken))

theorem primary : contract.Kept (fun _ => True) Parser.primary :=
  .bind .next fun _ htoken => .ite (.pure trivial) (.throw (contract.unexpected _ _ htoken))

theorem extend (least : Int) (left : Node) :
    contract.Kept (fun _ => True) (Parser.extend least left) := by
  intro l hlexer
  induction hremaining : l.remaining using Nat.strongRecOn generalizing least left l with
  | _ n ih =>
    have hstep := contract.next l hlexer
    rw [extend_eq]
    cases hnext : l.next with
    | error fault behind =>
      rw [hnext] at hstep
      exact ⟨hstep.1, hlexer⟩
    | ok token l₁ =>
      rw [hnext] at hstep
      cases hcontinues : continues? least token with
      | none =>
        simp only [hcontinues]
        exact ⟨trivial, hlexer⟩
      | some operator =>
        have hlt := Lexer.remaining_next_lt hnext (kind_ne_endOfInput_of_continues? hcontinues)
        simp only [hcontinues]
        refine (primary l₁ hstep.2).bind fun first l₂ hfirst _ hlexer₂ => ?_
        have hle := Forward.primary.remaining_le hfirst
        have hinner := ih l₂.remaining (by omega) operator.rightPower first l₂ hlexer₂ rfl
        refine hinner.bind fun right l₃ hright _ hlexer₃ => ?_
        have hle' := (Forward.extend operator.rightPower first).remaining_le hright
        exact ih l₃.remaining (by omega) least _ l₃ hlexer₃ rfl

theorem expression (least : Int) : contract.Kept (fun _ => True) (Parser.expression least) :=
  .bind .primary fun _ _ => .extend _ _

theorem binding (hlasts : contract.Lasts) (keyword : Token) :
    contract.Kept (fun _ => True) (Parser.binding keyword) :=
  .bind (.expect _ _) fun _ _ => .bind (.demand _ _) fun _ _ => .bind .next fun _ _ =>
    .bind (.expression _) fun _ _ => .bind (.note hlasts _) fun _ _ => .pure trivial

theorem statement (hlasts : contract.Lasts) : contract.Kept (fun _ => True) Parser.statement := by
  refine .bind .next fun token htoken => ?_
  cases token.kind with
  | letKeyword => exact .binding hlasts token
  | invalid | endOfInput => exact .throw (contract.unexpected _ _ htoken)
  | _ => exact .throw (contract.unsupported _ htoken)

theorem statements (hlasts : contract.Lasts) :
    contract.Kept (fun _ => True) Parser.statements := by
  intro l hlexer
  induction hremaining : l.remaining using Nat.strongRecOn generalizing l with
  | _ n ih =>
    have hpeek := peek l hlexer
    rw [Parser.statements]
    cases hupcoming : l.peek with
    | error fault behind =>
      rw [hupcoming] at hpeek
      exact ⟨hpeek.1, hlexer⟩
    | ok token behind =>
      simp only
      split
      · exact ⟨trivial, hlexer⟩
      · have hstatement := statement hlasts l hlexer
        split
        · next hrun =>
          rw [hrun] at hstatement
          exact hstatement
        · next node l₁ hrun =>
          rw [hrun] at hstatement
          have hlt := remaining_statement_lt hrun
          have hrest := ih l₁.remaining (by omega) l₁ hstatement.2 rfl
          cases hmore : Parser.statements l₁ with
          | ok nodes behind =>
            rw [hmore] at hrest
            exact hrest
          | error fault behind =>
            rw [hmore] at hrest
            exact hrest

theorem program (hlasts : contract.Lasts) : contract.Kept (fun _ => True) Parser.program :=
  .bind (.statements hlasts) fun _ _ => .bind (.note hlasts _) fun _ _ => .pure trivial

/-- Draining a lexer answers tokens that are promised, and nothing else. -/
theorem drain :
    contract.Kept (fun tokens => ∀ token ∈ tokens, contract.token token)
      (Lexer.drain : Parser (List Token)) := by
  intro l hlexer
  induction hremaining : l.remaining using Nat.strongRecOn generalizing l with
  | _ n ih =>
    have hstep := contract.next l hlexer
    rw [Lexer.drain]
    split
    · next hnext =>
      rw [hnext] at hstep
      exact hstep
    · next token l₁ hnext =>
      rw [hnext] at hstep
      split
      · exact ⟨by simp, hstep.2⟩
      · next hkind =>
        have hlt := Lexer.remaining_next_lt hnext hkind
        have hrest := ih l₁.remaining (by omega) l₁ hstep.2 rfl
        cases hmore : l₁.drain with
        | ok tokens behind =>
          rw [hmore] at hrest
          exact ⟨List.forall_mem_cons.2 ⟨hstep.1, hrest.1⟩, hrest.2⟩
        | error fault behind =>
          rw [hmore] at hrest
          exact hrest

end Contract.Kept

end Parser

end LetArith
