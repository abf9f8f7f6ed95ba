import LetArith.Proofs.Contract
import LetArith.Proofs.Program
import LetArith.Proofs.Relocation
import LetArith.Proofs.Trace

namespace LetArith

section Relocate

variable (base : Cursor)

/-- An error in a text that comes behind a base. -/
def ParseError.relocate (error : ParseError) : ParseError :=
  { error with token := error.token.map (Token.relocate base) }

/-- A fault in a text that comes behind a base. -/
def Fault.relocate : Fault → Fault
  | .pastEnd position line => .pastEnd (base.position + position) (base.line + line - 1)
  | .beforeBeginning position => .beforeBeginning (base.position + position)
  | .syntactic error => .syntactic (error.relocate base)

/-- What is noted about a text that comes behind a base. -/
def Event.relocate : Event → Event
  | .invalid token => .invalid (token.relocate base)
  | .bound name initial => .bound name (initial.mapLocation base.location.relocate)
  | .finished statements => .finished statements

/-- A lexer of a text when the text comes behind another one that ends at a base. -/
def Lexer.relocate (before : List Char) (l : Lexer) : Lexer :=
  ⟨before ++ l.source, base.relocate l.cursor, l.journal.map (Event.relocate base)⟩

/-- A step in a text that comes behind another one, where `move` tells what becomes of an answer. -/
def Step.relocate {α : Type} (before : List Char) (move : α → α) : Step α → Step α
  | .ok a l => .ok (move a) (l.relocate base before)
  | .error fault l => .error (fault.relocate base) (l.relocate base before)

@[simp] theorem Token.kind_relocate (token : Token) : (token.relocate base).kind = token.kind := rfl

/-- The wording of an error does not depend on where the text lies. -/
theorem ParseError.unexpected_relocate (token : Token) (expected : Option String) :
    unexpected (token.relocate base) expected = (unexpected token expected).relocate base := by
  obtain ⟨kind, literal, start⟩ := token
  cases kind <;> rfl

theorem Lexer.complaints_relocate (token : Token) :
    complaints (token.relocate base) = (complaints token).map (Event.relocate base) := by
  rw [complaints, complaints, Token.kind_relocate, apply_ite (List.map _)]
  rfl

theorem Token.scan_relocate {cursor : Cursor} (hline : 1 ≤ cursor.line) (text : List Char) :
    scan (base.relocate cursor) text =
      ((scan cursor text).1.relocate base, base.relocate (scan cursor text).2) := by
  have hblanks := Cursor.relocate_walk base hline (text.takeWhile Text.isBlank)
  have hline' := Cursor.one_le_line_walk hline (text.takeWhile Text.isBlank)
  simp only [scan, ← hblanks]
  split
  · rfl
  · rw [← Cursor.relocate_walk base hline']
    rfl

end Relocate

/-- The token that an event complains about. -/
def Event.culprit? : Event → Option Token
  | .invalid token => some token
  | .bound _ _ | .finished _ => none

namespace Lexer

/-- The tokens that a lexer has complained about so far, in order. -/
def culprits (l : Lexer) : List Token := l.journal.filterMap Event.culprit?

theorem diagnostics_eq (l : Lexer) : l.diagnostics = l.culprits.map Event.complaint := by
  rw [diagnostics, culprits, List.map_filterMap]
  congr 1
  funext event
  cases event <;> rfl

theorem culprits_relocate (base : Cursor) (before : List Char) (l : Lexer) :
    (l.relocate base before).culprits = l.culprits.map (Token.relocate base) := by
  rw [culprits, culprits, relocate, List.filterMap_map, List.map_filterMap]
  congr 1
  funext event
  cases event <;> rfl

/-- A lexer stands nowhere before the beginning of its text, nor on a line before the first one. -/
structure Onward (l : Lexer) : Prop where
  nonneg : 0 ≤ l.cursor.position
  one_le_line : 1 ≤ l.cursor.line

theorem onward_beginning (source : List Char) : Onward { source := source } :=
  ⟨Int.le_refl 0, Int.le_refl 1⟩

theorem Onward.scanned {l : Lexer} (h : l.Onward) (text : List Char) (journal : List Event) :
    Onward ⟨l.source, (Token.scan l.cursor text).2, journal⟩ := by
  refine ⟨Int.le_trans h.nonneg (Token.le_position_scan _ _), ?_⟩
  rcases Token.scan_cases l.cursor text with ⟨-, hscan⟩ | ⟨_, _, _, -, -, -, hscan⟩ <;> rw [hscan] <;>
    exact Cursor.one_le_line_walk h.one_le_line _

section

variable {base : Cursor} {before : List Char} {l : Lexer} (hbase : base.position = before.length)
include hbase

theorem Onward.nonneg_relocate (h : l.Onward) : 0 ≤ (l.relocate base before).cursor.position := by
  have hnonneg := h.nonneg
  change 0 ≤ base.position + l.cursor.position
  omega

/-- What is left of a text does not depend on what comes before the text. -/
theorem Onward.rest_relocate (h : l.Onward) : (l.relocate base before).rest = l.rest := by
  have hoffset : (l.relocate base before).cursor.position.toNat =
      before.length + l.cursor.position.toNat := by
    have hnonneg := h.nonneg
    change (base.position + l.cursor.position).toNat = _
    omega
  rw [rest, rest, if_pos h.nonneg, if_pos (h.nonneg_relocate hbase), hoffset, ← List.drop_drop]
  exact congrArg _ List.drop_left

end

end Lexer

section Mirrored

variable (base : Cursor) (before : List Char)

/-- A step is another one moved, and the lexer that the other one leaves goes onward. -/
def Step.Mirrored {α : Type} (move : α → α) (step moved : Step α) : Prop :=
  step.lexer.Onward ∧ moved = step.relocate base before move

/-- Of two parsers the second one does behind a base what the first one does at the beginning. -/
def Parser.Mirrored {α : Type} (move : α → α) (p q : Parser α) : Prop :=
  ∀ l : Lexer, l.Onward → Step.Mirrored base before move (p l) (q (l.relocate base before))

end Mirrored

variable {base : Cursor} {before : List Char}

theorem Step.Mirrored.bind {α β : Type} {move : α → α} {move' : β → β} {p p' : Parser α}
    {q q' : α → Parser β} {l l' : Lexer} (hp : Mirrored base before move (p l) (p' l'))
    (hq : ∀ a l₁, p l = .ok a l₁ → l₁.Onward →
      Mirrored base before move' (q a l₁) (q' (move a) (l₁.relocate base before))) :
    Mirrored base before move' ((p >>= q) l) ((p' >>= q') l') := by
  obtain ⟨honward, hmoved⟩ := hp
  simp only [Bind.bind, EStateM.bind, hmoved]
  cases hrun : p l with
  | ok a l₁ =>
    rw [hrun] at honward
    exact hq a l₁ hrun honward
  | error fault l₁ =>
    rw [hrun] at honward
    exact ⟨honward, rfl⟩

namespace Parser.Mirrored

variable {α β : Type} {move : α → α} {move' : β → β}

theorem pure (a : α) :
    Mirrored base before move (pure a : Parser α) (pure (move a) : Parser α) :=
  fun _ honward => ⟨honward, rfl⟩

theorem throw (fault : Fault) :
    Mirrored base before move (throw fault : Parser α)
      (throw (fault.relocate base) : Parser α) :=
  fun _ honward => ⟨honward, rfl⟩

theorem bind {p p' : Parser α} {q q' : α → Parser β} (hp : Mirrored base before move p p')
    (hq : ∀ a, Mirrored base before move' (q a) (q' (move a))) :
    Mirrored base before move' (p >>= q) (p' >>= q') :=
  fun l honward => (hp l honward).bind fun a l₁ _ honward₁ => hq a l₁ honward₁

theorem ite {c : Prop} [Decidable c] {p p' q q' : Parser α}
    (hp : Mirrored base before move p p') (hq : Mirrored base before move q q') :
    Mirrored base before move (if c then p else q) (if c then p' else q') := by
  split <;> assumption

theorem unexpected (token : Token) (expected : Option String) :
    Mirrored base before move (MonadExcept.throw (.syntactic (.unexpected token expected)))
      (MonadExcept.throw (.syntactic (.unexpected (token.relocate base) expected)) : Parser α) := by
  rw [ParseError.unexpected_relocate]
  exact throw _

theorem note (event : Event) :
    Mirrored base before id (Parser.note event) (Parser.note (event.relocate base)) := by
  intro l honward
  have hmoved : (l.relocate base before).note (event.relocate base) =
      (l.note event).relocate base before := by
    simp [Lexer.note, Lexer.relocate]
  exact ⟨⟨honward.nonneg, honward.one_le_line⟩, congrArg (EStateM.Result.ok ()) hmoved⟩

variable (hbase : base.position = before.length)
include hbase

theorem next :
    Mirrored base before (Token.relocate base) (Lexer.next : Parser Token) Lexer.next := by
  intro l honward
  have hfound := Lexer.tokenAt?_eq_scan honward.nonneg
  have hmoved := Lexer.tokenAt?_eq_scan (honward.nonneg_relocate hbase)
  rw [honward.rest_relocate hbase] at hmoved
  have hscan := Token.scan_relocate base honward.one_le_line l.rest
  rw [Lexer.next_eq, Lexer.next_eq, hfound, hmoved]
  refine ⟨honward.scanned _ _, ?_⟩
  simp [Step.relocate, Lexer.relocate, Lexer.complaints_relocate, hscan]

theorem exists_next {l : Lexer} (honward : l.Onward) :
    ∃ token behind, l.next = .ok token behind ∧
      (l.relocate base before).next = .ok (token.relocate base) (behind.relocate base before) := by
  obtain ⟨token, behind, hnext⟩ := Lexer.exists_next (Lexer.within_of_nonneg honward.nonneg)
  refine ⟨token, behind, hnext, ?_⟩
  rw [(next hbase l honward).2, hnext]
  rfl

theorem peek :
    Mirrored base before (Token.relocate base) (Lexer.peek : Parser Token) Lexer.peek := by
  intro l honward
  have hnext := (next hbase l honward).2
  rw [Lexer.peek_eq, Lexer.peek_eq, hnext]
  cases l.next with
  | ok token behind => exact ⟨honward, rfl⟩
  | error fault behind => exact ⟨honward, rfl⟩

theorem expect (kind : Kind) (expected : String) :
    Mirrored base before (Token.relocate base) (Parser.expect kind expected)
      (Parser.expect kind expected) :=
  .bind (next hbase) fun token => .ite (.pure token) (.unexpected token expected)

theorem demand (kind : Kind) (expected : String) :
    Mirrored base before id (Parser.demand kind expected) (Parser.demand kind expected) :=
  .bind (peek hbase) fun token => .ite (.pure ()) (.unexpected token expected)

theorem primary :
    Mirrored base before (Node.mapLocation base.location.relocate) Parser.primary Parser.primary :=
  .bind (next hbase) fun token => .ite (.pure token.leaf) (.unexpected token "a number")

theorem extend (least : Int) (left : Node) :
    Mirrored base before (Node.mapLocation base.location.relocate) (Parser.extend least left)
      (Parser.extend least (left.mapLocation base.location.relocate)) := by
  intro l honward
  induction hremaining : l.remaining using Nat.strongRecOn generalizing least left l with
  | _ n ih =>
    obtain ⟨honward₁, hmoved⟩ := next hbase l honward
    rw [extend_eq, extend_eq, hmoved]
    cases hnext : l.next with
    | error fault behind => exact ⟨honward, rfl⟩
    | ok token l₁ =>
      rw [hnext] at honward₁
      have hsame : continues? least (token.relocate base) = continues? least token := rfl
      simp only [Step.relocate, hsame]
      cases hcontinues : continues? least token with
      | none => exact ⟨honward, rfl⟩
      | some operator =>
        have hlt := Lexer.remaining_next_lt hnext (kind_ne_endOfInput_of_continues? hcontinues)
        refine (primary hbase l₁ honward₁).bind fun first l₂ hfirst honward₂ => ?_
        have hle := Forward.primary.remaining_le hfirst
        have hinner := ih l₂.remaining (by omega) operator.rightPower first l₂ honward₂ rfl
        refine hinner.bind fun right l₃ hright honward₃ => ?_
        have hle' := (Forward.extend operator.rightPower first).remaining_le hright
        rw [Node.location_mapLocation]
        exact ih l₃.remaining (by omega) least (.binary left operator right left.location) l₃
          honward₃ rfl

theorem expression (least : Int) :
    Mirrored base before (Node.mapLocation base.location.relocate) (Parser.expression least)
      (Parser.expression least) :=
  .bind (primary hbase) fun first => extend hbase least first

theorem binding (keyword : Token) :
    Mirrored base before (Node.mapLocation base.location.relocate) (Parser.binding keyword)
      (Parser.binding (keyword.relocate base)) :=
  .bind (expect hbase _ _) fun _ => .bind (demand hbase _ _) fun _ => .bind (next hbase) fun _ =>
    .bind (expression hbase 0) fun _ => .bind (note _) fun _ => .pure _

theorem statement :
    Mirrored base before (Node.mapLocation base.location.relocate) Parser.statement
      Parser.statement := by
  refine .bind (next hbase) fun token => ?_
  rw [Token.kind_relocate]
  cases hkind : token.kind with
  | letKeyword => exact binding hbase token
  | invalid | endOfInput => exact unexpected token _
  | _ => exact throw (.syntactic (.unsupported token))

theorem statements :
    Mirrored base before (List.map (Node.mapLocation base.location.relocate)) Parser.statements
      Parser.statements := by
  intro l honward
  induction hremaining : l.remaining using Nat.strongRecOn generalizing l with
  | _ n ih =>
    obtain ⟨token, behind, hnext, hmoved⟩ := exists_next hbase honward
    rw [statements_of_next hnext, statements_of_next hmoved, Token.kind_relocate]
    split
    · exact ⟨honward, rfl⟩
    · obtain ⟨honward₁, hstatement⟩ := statement hbase l honward
      rw [hstatement]
      cases hrun : Parser.statement l with
      | error fault l₁ =>
        rw [hrun] at honward₁
        exact ⟨honward₁, rfl⟩
      | ok node l₁ =>
        rw [hrun] at honward₁
        have hlt := remaining_statement_lt hrun
        obtain ⟨honward₂, hrest⟩ := ih l₁.remaining (by omega) l₁ honward₁ rfl
        simp only [Step.relocate, hrest]
        cases hmore : Parser.statements l₁ with
        | ok nodes l₂ | error fault l₂ =>
          rw [hmore] at honward₂
          exact ⟨honward₂, rfl⟩

theorem program :
    Mirrored base before (List.map (Node.mapLocation base.location.relocate)) Parser.program
      Parser.program := by
  refine .bind (statements hbase) fun nodes => ?_
  rw [List.length_map]
  exact .bind (note _) fun _ => .pure nodes

theorem drain :
    Mirrored base before (List.map (Token.relocate base)) (Lexer.drain : Parser (List Token))
      Lexer.drain := by
  intro l honward
  induction hremaining : l.remaining using Nat.strongRecOn generalizing l with
  | _ n ih =>
    obtain ⟨token, l₁, hnext, hmoved⟩ := exists_next hbase honward
    have honward₁ := (next hbase l honward).1
    rw [hnext] at honward₁
    rw [Lexer.drain_of_next hnext, Lexer.drain_of_next hmoved, Token.kind_relocate]
    split
    · exact ⟨honward₁, rfl⟩
    · next hkind =>
      have hlt := Lexer.remaining_next_lt hnext hkind
      obtain ⟨honward₂, hrest⟩ := ih l₁.remaining (by omega) l₁ honward₁ rfl
      rw [hrest]
      cases hmore : l₁.drain with
      | ok tokens l₂ | error fault l₂ =>
        rw [hmore] at honward₂
        exact ⟨honward₂, rfl⟩

end Parser.Mirrored

namespace Lexer

/-- Whatever is read from a lexer is what is read from another one, moved behind a base: the tokens
    one by one or all at once, and what parsers make of them. -/
structure Mirrors (base : Cursor) (before : List Char) (l moved : Lexer) : Prop where
  next : moved.next = l.next.relocate base before (Token.relocate base)
  peek : moved.peek = l.peek.relocate base before (Token.relocate base)
  drain : moved.drain = l.drain.relocate base before (List.map (Token.relocate base))
  program : Parser.program moved =
    Step.relocate base before (List.map (Node.mapLocation base.location.relocate))
      (Parser.program l)
  statement : Parser.statement moved =
    Step.relocate base before (Node.mapLocation base.location.relocate) (Parser.statement l)
  expression : ∀ least, Parser.expression least moved =
    Step.relocate base before (Node.mapLocation base.location.relocate)
      (Parser.expression least l)

variable {base : Cursor} {before : List Char} {l : Lexer} (hbase : base.position = before.length)
include hbase

theorem Onward.mirrors (honward : l.Onward) : Mirrors base before l (l.relocate base before) where
  next := (Parser.Mirrored.next hbase l honward).2
  peek := (Parser.Mirrored.peek hbase l honward).2
  drain := (Parser.Mirrored.drain hbase l honward).2
  program := (Parser.Mirrored.program hbase l honward).2
  statement := (Parser.Mirrored.statement hbase l honward).2
  expression least := (Parser.Mirrored.expression hbase least l honward).2

theorem Onward.after_relocate (honward : l.Onward) (n : Nat) :
    (l.after n).Onward ∧ (l.relocate base before).after n = (l.after n).relocate base before := by
  induction n generalizing l with
  | zero => exact ⟨honward, rfl⟩
  | succ n ih =>
    obtain ⟨token, behind, hnext, hmoved⟩ := Parser.Mirrored.exists_next hbase honward
    have hbehind := (Parser.Mirrored.next hbase l honward).1
    rw [hnext] at hbehind
    rw [after_succ hnext, after_succ hmoved]
    exact ih hbehind

end Lexer

/-- Reading from any place of a text, on whatever line and column it is said to lie, is reading the
    rest of the text from its beginning and moving all places there: offsets by the offset of the
    place, lines by its line, and columns by its column as long as they are on the first line. The
    tokens, the trees, the errors and the complaints are the same but for that. -/
theorem reading_from_within (source : List Char) (base : Cursor) (hnonneg : 0 ≤ base.position)
    (hle : base.position ≤ source.length) :
    let before := source.take base.position.toNat
    let rest : Lexer := { source := source.drop base.position.toNat }
    let within : Lexer := { source := source, cursor := base }
    (∀ n, Lexer.Mirrors base before (rest.after n) (within.after n)) ∧
      ∀ l : Lexer, l.diagnostics = l.culprits.map Event.complaint ∧
        (l.relocate base before).diagnostics =
          (l.culprits.map (Token.relocate base)).map Event.complaint := by
  intro before rest within
  have hbase : base.position = before.length := by
    rw [List.length_take]
    omega
  have hwithin : within = rest.relocate base before := by
    simp [within, rest, before, Lexer.relocate, Cursor.relocate_beginning]
  refine ⟨fun n => ?_, fun l => ⟨l.diagnostics_eq, ?_⟩⟩
  · obtain ⟨honward, hafter⟩ :=
      (Lexer.onward_beginning (source.drop base.position.toNat)).after_relocate hbase n
    rw [hwithin, hafter]
    exact honward.mirrors hbase
  · rw [Lexer.diagnostics_eq, Lexer.culprits_relocate]

/-- A name and a sign on two lines behind a stray character, with the name said to lie on a line
    and a column that no text has. -/
theorem reading_from_within_behind_stray :
    let base : Cursor := ⟨1, -7, 0⟩
    let rest : Lexer := { source := ['a', '\n', '+'] }
    let within : Lexer := { source := ['?', 'a', '\n', '+'], cursor := base }
    0 ≤ base.position ∧ base.position ≤ within.source.length ∧
      (∀ n, Lexer.Mirrors base ['?'] (rest.after n) (within.after n)) ∧
      ∀ l : Lexer, l.diagnostics = l.culprits.map Event.complaint ∧
        (l.relocate base ['?']).diagnostics =
          (l.culprits.map (Token.relocate base)).map Event.complaint := by
  intro base rest within
  have hnonneg : 0 ≤ base.position := by decide
  have hle : base.position ≤ within.source.length := by decide
  exact ⟨hnonneg, hle, reading_from_within within.source base hnonneg hle⟩

end LetArith
