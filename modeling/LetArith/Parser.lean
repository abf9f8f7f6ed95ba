import LetArith.Lexer.Progress

namespace LetArith

/-- A parser: it reads from a lexer and answers a value, or a fault. -/
abbrev Parser (α : Type) := EStateM Fault Lexer α

namespace Parser

variable {α β : Type}

/-- A parser that never moves the cursor back, whether it succeeds or fails. All parsers are such,
    which makes their mutual descent end. -/
def Forward (p : Parser α) : Prop := ∀ l : Lexer, (Step.lexer (p l)).remaining ≤ l.remaining

theorem Forward.pure (a : α) : Forward (pure a : Parser α) := fun _ => Nat.le_refl _

theorem Forward.throw (fault : Fault) : Forward (throw fault : Parser α) := fun _ => Nat.le_refl _

theorem Forward.bind {p : Parser α} {q : α → Parser β} (hp : Forward p) (hq : ∀ a, Forward (q a)) :
    Forward (p >>= q) := by
  intro l
  have hl := hp l
  simp only [Bind.bind, EStateM.bind]
  split
  · next a l' hrun =>
    rw [hrun] at hl
    exact Nat.le_trans (hq a l') hl
  · next hrun =>
    rw [hrun] at hl
    exact hl

theorem Forward.ite {c : Prop} [Decidable c] {p q : Parser α} (hp : Forward p) (hq : Forward q) :
    Forward (if c then p else q) := by
  split <;> assumption

theorem Forward.next : Forward (Lexer.next : Parser Token) := Lexer.remaining_next_le

theorem Forward.peek : Forward (Lexer.peek : Parser Token) := by
  intro l
  simp only [Lexer.peek]
  split <;> exact Nat.le_refl _

/-- Adds an event to the journal. -/
def note (event : Event) : Parser Unit := modify fun l => l.note event

theorem Forward.note (event : Event) : Forward (note event) := fun _ => Nat.le_refl _

/-- Consumes the next token, which has to be of a kind. A token of another kind is consumed, too. -/
def expect (kind : Kind) (expected : String) : Parser Token := do
  let token ← Lexer.next
  if token.kind = kind then pure token
  else throw (.syntactic (.unexpected token expected))

theorem Forward.expect (kind : Kind) (expected : String) : Forward (expect kind expected) :=
  .bind .next fun _ => .ite (.pure _) (.throw _)

/-- Demands that the next token be of a kind, and consumes nothing. -/
def demand (kind : Kind) (expected : String) : Parser Unit := do
  let token ← Lexer.peek
  if token.kind = kind then pure ()
  else throw (.syntactic (.unexpected token expected))

theorem Forward.demand (kind : Kind) (expected : String) : Forward (demand kind expected) :=
  .bind .peek fun _ => .ite (.pure _) (.throw _)

/-- Reads a number. -/
def primary : Parser Node := do
  let token ← Lexer.next
  if token.kind = .number then
    pure (.number (.ofNumeral false token.literal.toList 0) token.start.location)
  else throw (.syntactic (.unexpected token "a number"))

theorem Forward.primary : Forward primary :=
  .bind .next fun _ => .ite (.pure _) (.throw _)

/-- The operator by which a token continues an expression: one whose left power is at least the
    given one. -/
def continues? (least : Int) (token : Token) : Option Operator :=
  token.kind.operator?.filter fun operator => least ≤ operator.leftPower

/-- The token for the end of input continues no expression. -/
theorem kind_ne_endOfInput_of_continues? {least : Int} {token : Token} {operator : Operator}
    (h : continues? least token = some operator) : token.kind ≠ .endOfInput := by
  intro hkind
  simp [continues?, hkind, Kind.operator?] at h

/-- Extends an expression to the right, with the fact that the cursor is not moved back. -/
def extendForward (least : Int) (left : Node) (l : Lexer) :
    { step : Step Node // step.lexer.remaining ≤ l.remaining } :=
  match hnext : l.next with
  | .error fault _ => ⟨.error fault l, Nat.le_refl _⟩
  | .ok token l₁ =>
    match hcontinues : continues? least token with
    | none => ⟨.ok left l, Nat.le_refl _⟩
    | some operator =>
      have h₁ : l₁.remaining < l.remaining :=
        Lexer.remaining_next_lt hnext (kind_ne_endOfInput_of_continues? hcontinues)
      match hprimary : primary l₁ with
      | .error fault l₂ =>
        have h₂ : l₂.remaining ≤ l₁.remaining := by
          simpa only [hprimary, Step.lexer] using Forward.primary l₁
        ⟨.error fault l₂, Nat.le_trans h₂ (Nat.le_of_lt h₁)⟩
      | .ok first l₂ =>
        have h₂ : l₂.remaining ≤ l₁.remaining := by
          simpa only [hprimary, Step.lexer] using Forward.primary l₁
        match extendForward operator.rightPower first l₂ with
        | ⟨.error fault l₃, h₃⟩ =>
          ⟨.error fault l₃, Nat.le_trans h₃ (Nat.le_trans h₂ (Nat.le_of_lt h₁))⟩
        | ⟨.ok right l₃, h₃⟩ =>
          have h₃ : l₃.remaining ≤ l₂.remaining := h₃
          match extendForward least (.binary left operator right left.location) l₃ with
          | ⟨step, h₄⟩ => ⟨step, Nat.le_trans h₄ (by omega)⟩
termination_by l.remaining

/-- Extends an expression to the right by operators whose left power is at least the given one. A
    token that continues nothing is left where it is. -/
def extend (least : Int) (left : Node) : Parser Node := fun l => (extendForward least left l).val

theorem Forward.extend (least : Int) (left : Node) : Forward (extend least left) :=
  fun l => (extendForward least left l).property

/-- How an expression is extended, step by step. -/
theorem extend_eq (least : Int) (left : Node) (l : Lexer) :
    extend least left l =
      match l.next with
      | .error fault _ => .error fault l
      | .ok token l₁ =>
        match continues? least token with
        | none => .ok left l
        | some operator =>
          (do
            let first ← primary
            let right ← extend operator.rightPower first
            extend least (.binary left operator right left.location) : Parser Node) l₁ := by
  unfold extend
  rw [extendForward]
  split
  · next hnext => simp [hnext]
  · next token l₁ hnext =>
    simp only [hnext]
    split
    · next hcontinues => simp [hcontinues]
    · next operator hcontinues =>
      simp only [hcontinues, bind, EStateM.bind]
      split
      · next hprimary => simp [hprimary]
      · next first l₂ hprimary =>
        simp only [hprimary]
        split
        · next hstep => simp [hstep]
        · next hstep => simp [hstep]

/-- Reads an expression, as far as operators of at least the given left power continue it. -/
def expression (least : Int) : Parser Node := do
  let first ← primary
  extend least first

theorem Forward.expression (least : Int) : Forward (expression least) :=
  .bind .primary fun _ => .extend _ _

/-- Reads the rest of a binding behind its keyword. -/
def binding (keyword : Token) : Parser Node := do
  let name ← expect .identifier "an identifier after 'let'"
  demand .assign "'=' after the bound name"
  let _ ← Lexer.next
  let initial ← expression 0
  note (.bound name.literal initial)
  pure (.binding name.literal initial keyword.start.location)

theorem Forward.binding (keyword : Token) : Forward (binding keyword) :=
  .bind (.expect _ _) fun _ => .bind (.demand _ _) fun _ => .bind .next fun _ =>
    .bind (.expression _) fun _ => .bind (.note _) fun _ => .pure _

/-- Reads a statement. Bindings are the only ones. -/
def statement : Parser Node := do
  let token ← Lexer.next
  match token.kind with
  | .letKeyword => binding token
  | .invalid | .endOfInput => throw (.syntactic (.unexpected token "a statement"))
  | _ => throw (.syntactic (.unsupported token))

/-- A statement that was read took its keyword at least. -/
theorem remaining_statement_lt {l l' : Lexer} {node : Node} (h : statement l = .ok node l') :
    l'.remaining < l.remaining := by
  simp only [statement, bind, EStateM.bind] at h
  split at h
  · next token l₁ hnext =>
    cases hkind : token.kind <;> rw [hkind] at h
    case letKeyword =>
      have h₁ := Lexer.remaining_next_lt hnext (by simp [hkind])
      have h₂ : l'.remaining ≤ l₁.remaining := by
        simpa only [h, Step.lexer] using Forward.binding token l₁
      omega
    all_goals cases h
  · cases h

/-- Reads statements up to the end of the text, and leaves the blanks before it. -/
def statements (l : Lexer) : Step (List Node) :=
  match l.peek with
  | .error fault _ => .error fault l
  | .ok token _ =>
    if token.kind = .endOfInput then .ok [] l
    else
      match _ : statement l with
      | .error fault l' => .error fault l'
      | .ok node l' =>
        match statements l' with
        | .ok nodes l'' => .ok (node :: nodes) l''
        | .error fault l'' => .error fault l''
termination_by l.remaining
decreasing_by exact remaining_statement_lt ‹_›

/-- Reads a whole program. -/
def program : Parser (List Node) := do
  let nodes ← statements
  note (.finished nodes.length)
  pure nodes

end Parser

/-- The outcome of a step without the lexer that it leaves behind. -/
def Step.toExcept {α : Type} : Step α → Except Fault α
  | .ok a _ => .ok a
  | .error fault _ => .error fault

/-- The tokens of a text, without the one for the end of input. -/
def tokenize (text : String) : Except Fault (List Token) :=
  Step.toExcept (Lexer.ofString text).drain

/-- The program that a text holds. -/
def parse (text : String) : Except Fault (List Node) :=
  Step.toExcept (Parser.program (Lexer.ofString text))

end LetArith
