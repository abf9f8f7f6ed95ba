import LetArith.Proofs.Noted
import LetArith.Proofs.RoundTrip
import LetArith.Run

namespace LetArith

namespace Failure

/-- The failure of a text that does not follow the grammar. -/
def Syntactic (failure : Failure) : Prop := ∃ error, failure = .unreadable (.syntactic error)

/-- The failures to get hold of the file of a path, or of the text in it. -/
def AtFile : Failure → Prop
  | .unsupportedName | .embeddedNull | .obstructed _ _ | .malformed _ => True
  | .unreadable _ | .interrupted _ | .exhausted => False

end Failure

theorem checkedPath_cases (path : String) :
    checkedPath path = .ok path ∨ checkedPath path = .error .embeddedNull := by
  unfold checkedPath
  split
  · exact .inr rfl
  · exact .inl rfl

theorem exists_syntactic_of_parse {text : String} {fault : Fault} (h : parse text = .error fault) :
    ∃ error, fault = .syntactic error := by
  obtain ⟨_, _, -, -, -, ⟨_, -, haccepted⟩ | ⟨_, _, _, -, -, -, hrefused⟩⟩ := parse_cases text
  · rw [haccepted] at h
    cases h
  · rw [hrefused] at h
    exact ⟨_, (Except.error.inj h).symm⟩

namespace Stack

/-- Whether a tree that is noted while a text is parsed is too high for its record, where the whole
    log is shown. -/
def OverflowsLog (stack : Stack) (shown : Level) (text : String) : Prop :=
  shown = .debug ∧ ∃ tree ∈ noted text, tree.fits stack.record = false

instance (stack : Stack) (shown : Level) : DecidablePred (stack.OverflowsLog shown) :=
  fun _ => inferInstanceAs (Decidable (_ ∧ _))

/-- Whether a text is parsed to a tree that is higher than a limit. -/
def OverflowsAt (limit : Option Nat) (text : String) : Prop :=
  ∃ nodes, parse text = .ok nodes ∧ ∃ node ∈ nodes, node.fits limit = false

/-- Whether a tree of a text is too high, either for its record or for how it is shown at the end. -/
def Overflows (stack : Stack) (shown : Level) (limit : Option Nat) (text : String) : Prop :=
  stack.OverflowsLog shown text ∨ OverflowsAt limit text

theorem overflowsAt_iff {limit : Option Nat} {text : String} {nodes : List Node}
    (hparse : parse text = .ok nodes) :
    OverflowsAt limit text ↔ nodes.all (Node.fits limit) = false := by
  have hnodes (nodes' : List Node) : parse text = .ok nodes' ↔ nodes' = nodes := by
    rw [hparse, Except.ok.injEq, eq_comm]
  simp [OverflowsAt, hnodes]

end Stack

namespace Request

variable (request : Request) (host : Host) (stack : Stack) (shown : Level)

/-- The rendering of a text that is asked for, or what is wrong with the text. -/
def rendition (text : String) : Except Fault String :=
  if request.tokens then (tokenize text).map Token.lines
  else
    (parse text).map fun nodes =>
      if request.json then Node.documentText nodes else Node.lines nodes

/-- Whether trees are asked for and one is too high. -/
def Overflows (text : String) : Prop :=
  request.tokens = false ∧ stack.Overflows shown (request.limit stack) text

/-- What comes of rendering a text. -/
inductive Renders (text : String) : Except Failure String → Prop
  | exhausted (hoverflows : request.Overflows stack shown text) : Renders text (.error .exhausted)
  | refused {error : ParseError} (hlog : ¬ stack.OverflowsLog shown text)
      (hrendition : request.rendition text = .error (.syntactic error)) :
      Renders text (.error (.unreadable (.syntactic error)))
  | rendered {rendering : String} (hfits : ¬ request.Overflows stack shown text)
      (hrendition : request.rendition text = .ok rendering) : Renders text (.ok rendering)

end Request

namespace Job

variable {α β : Type}

/-- What is left behind by a job that has an outcome and does nothing beside but to record. -/
def finished (outcome : Except Failure α) (records : List Record) (w : Workspace) :
    EStateM.Result Failure Workspace α :=
  match outcome with
  | .ok a => .ok a { w with records := w.records ++ records }
  | .error failure => .error failure { w with records := w.records ++ records }

/-- A job has an outcome, and does nothing beside but to record what depends on neither the
    workspace nor on what was recorded before. -/
def Finishes (job : Job α) (outcome : Except Failure α) : Prop :=
  ∃ records, ∀ w, job w = finished outcome records w

namespace Finishes

theorem ofExcept (outcome : Except Failure α) : Finishes (Job.ofExcept outcome) outcome := by
  refine ⟨[], fun w => ?_⟩
  cases outcome <;> simp only [finished, List.append_nil] <;> rfl

theorem pure (a : α) : Finishes (Pure.pure a) (.ok a) := ofExcept (.ok a)

theorem throw (failure : Failure) : Finishes (throw failure : Job α) (.error failure) :=
  ofExcept (.error failure)

theorem record (shown : Level) (records : List Record) :
    Finishes (Job.record shown records) (.ok ()) := ⟨Record.atLeast shown records, fun _ => rfl⟩

theorem note (stack : Stack) (shown : Level) (journal : List Event) :
    Finishes (Job.note stack shown journal)
      (if journal.any (stack.exhaustedBy shown) then .error .exhausted else .ok ()) := by
  refine ⟨stack.records shown journal, fun w => ?_⟩
  unfold Job.note
  split <;> rfl

theorem bind {job : Job α} {next : α → Job β} {outcome : Except Failure α}
    {rest : α → Except Failure β} (hjob : Finishes job outcome)
    (hnext : ∀ a, Finishes (next a) (rest a)) : Finishes (job >>= next) (outcome >>= rest) := by
  obtain ⟨records, hjob⟩ := hjob
  cases outcome with
  | error failure =>
    refine ⟨records, fun w => ?_⟩
    simp only [Bind.bind, EStateM.bind, hjob, finished, Except.bind]
  | ok a =>
    obtain ⟨more, hmore⟩ := hnext a
    refine ⟨records ++ more, fun w => ?_⟩
    simp only [Bind.bind, EStateM.bind, hjob, finished, Except.bind, hmore, List.append_assoc]

theorem ite {c : Prop} [Decidable c] {job other : Job α} {outcome outcome' : Except Failure α}
    (hjob : Finishes job outcome) (hother : Finishes other outcome') :
    Finishes (if c then job else other) (if c then outcome else outcome') := by
  split <;> assumption

end Finishes

end Job

namespace Request

variable {request : Request} {host : Host} {stack : Stack} {shown : Level}

private theorem finishes_reading {α : Type} (stack : Stack) (shown : Level)
    (step : Lexer → Step α) (text : List Char) :
    let outcome := step (.ofString (String.ofList text))
    (reading stack shown step text).Finishes
      (if shown = .debug ∧ ∃ tree ∈ outcome.lexer.trees, tree.fits stack.record = false then
        .error .exhausted
      else outcome.toExcept.mapError .unreadable) := by
  intro outcome
  have hreading := (Job.Finishes.note stack shown outcome.lexer.journal).bind
    fun _ => Job.Finishes.ofExcept (outcome.toExcept.mapError .unreadable)
  have hstep : step { source := text } = outcome := by
    rw [← Lexer.ofString_ofList]
  simp only [reading, hstep]
  simp only [Stack.any_exhaustedBy_iff] at hreading
  split at hreading
  · next hexhausted =>
    rw [if_pos hexhausted]
    exact hreading
  · next hfits =>
    rw [if_neg hfits]
    exact hreading

/-- The tokens of a text are read however little room there is for trees. -/
theorem finishes_drain (stack : Stack) (shown : Level) (text : List Char) :
    (reading stack shown Lexer.drain text).Finishes
      ((tokenize (String.ofList text)).mapError .unreadable) := by
  have hreading := finishes_reading stack shown Lexer.drain text
  rw [tokenize]
  simpa only [trees_drain, List.not_mem_nil, false_and, exists_false, and_false, if_false] using
    hreading

theorem finishes_program (stack : Stack) (shown : Level) (text : List Char) :
    (reading stack shown Parser.program text).Finishes
      (if stack.OverflowsLog shown (String.ofList text) then .error .exhausted
      else (parse (String.ofList text)).mapError .unreadable) :=
  finishes_reading stack shown Parser.program text

theorem finishes_rendering (request : Request) (stack : Stack) (shown : Level) (text : List Char) :
    ∃ outcome, (request.rendering stack shown text).Finishes outcome ∧
      request.Renders stack shown (String.ofList text) outcome := by
  by_cases htokens : request.tokens
  · have hdrain := finishes_drain stack shown text
    have htokenize := (tokens_eq (String.ofList text)).1
    rw [htokenize] at hdrain
    refine ⟨.ok (Token.lines (Piece.tokens {} (Piece.all (String.ofList text).toList))), ?_,
      .rendered (fun h => Bool.false_ne_true (h.1.symm.trans htokens)) ?_⟩
    · rw [rendering, if_pos htokens]
      exact hdrain.bind fun _ => .pure _
    · rw [rendition, if_pos htokens, htokenize]
      rfl
  · have htrees : request.tokens = false := by simpa using htokens
    have hprogram := (finishes_program stack shown text).bind fun nodes =>
      .ite (c := nodes.all (Node.fits (request.limit stack)))
        (.pure (if request.json then Node.documentText nodes else Node.lines nodes))
        (.throw .exhausted)
    rw [rendering, if_neg htokens]
    refine ⟨_, hprogram, ?_⟩
    by_cases hlog : stack.OverflowsLog shown (String.ofList text)
    · rw [if_pos hlog]
      exact .exhausted ⟨htrees, .inl hlog⟩
    · rw [if_neg hlog]
      cases hparse : parse (String.ofList text) with
      | error fault =>
        obtain ⟨error, rfl⟩ := exists_syntactic_of_parse hparse
        refine .refused hlog ?_
        rw [rendition, if_neg htokens, hparse]
        rfl
      | ok nodes =>
        cases hfits : nodes.all (Node.fits (request.limit stack)) with
        | true =>
          simp only [Except.mapError, bind, Except.bind, hfits, if_true]
          refine .rendered ?_ ?_
          · rintro ⟨-, hlog' | hlimit⟩
            · exact hlog hlog'
            · rw [Stack.overflowsAt_iff hparse, hfits] at hlimit
              cases hlimit
          · rw [rendition, if_neg htokens, hparse]
            rfl
        | false =>
          simp only [Except.mapError, bind, Except.bind, hfits, Bool.false_eq_true, if_false]
          exact .exhausted ⟨htrees, .inr ((Stack.overflowsAt_iff hparse).2 hfits)⟩

section Results

variable {failure : Failure} {rendering : String}

end Results

end Request

end LetArith
