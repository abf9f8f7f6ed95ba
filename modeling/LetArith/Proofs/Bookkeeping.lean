import LetArith.Proofs.Contract
import LetArith.Proofs.Places
import LetArith.Proofs.Session
import LetArith.Proofs.Trace

namespace LetArith

/-- The tokens that a fault hands out. -/
def Fault.handedOut : Fault → List Token
  | .syntactic error => error.token.toList
  | .pastEnd _ _ | .beforeBeginning _ => []

/-- The tokens that an answer hands out. -/
def Answer.handedOut : Answer → List Token
  | .token one => [one]
  | .tokens all => all
  | .nothing | .stop | .flag _ | .place _ | .character _ | .text _ | .tree _ | .trees _ => []

/-- All tokens begin at places of a text. -/
def Token.BeginIn (text : List Char) (tokens : List Token) : Prop :=
  ∀ token ∈ tokens, token.start.Reached text

theorem Token.beginIn_nil (text : List Char) : BeginIn text [] := by
  simp [BeginIn]

theorem Token.beginIn_singleton {text : List Char} {token : Token} :
    BeginIn text [token] ↔ token.start.Reached text := by
  simp [BeginIn]

namespace Lexer

/-- A lexer reads a text from one of its places. -/
structure ReadsFrom (text : List Char) (l : Lexer) : Prop where
  source : l.source = text
  cursor : l.cursor.Reached text

namespace ReadsFrom

variable {l : Lexer} {text : List Char}

private theorem rest_eq (h : l.ReadsFrom text) : l.rest = text.drop l.cursor.position.toNat := by
  rw [rest, if_pos h.cursor.nonneg, h.source]

theorem skip (h : l.ReadsFrom text) {more : List Char} (hmore : more <+: l.rest) :
    (l.skip more).ReadsFrom text := by
  rw [h.rest_eq] at hmore
  exact ⟨h.source, h.cursor.walk hmore⟩

theorem note (h : l.ReadsFrom text) (event : Event) : (l.note event).ReadsFrom text :=
  ⟨h.source, h.cursor⟩

theorem scan (h : l.ReadsFrom text) :
    l.scan.Satisfies (·.start.Reached text) (Token.BeginIn text ·.handedOut) (ReadsFrom text) := by
  have hposition := h.cursor.nonneg
  rw [Lexer.scan, if_pos hposition, h.rest_eq]
  rcases Token.scan_cases l.cursor (text.drop l.cursor.position.toNat) with
    ⟨-, hscan⟩ | ⟨blanks, lexeme, behind, hsplit, -, -, hscan⟩
  · have hend := h.cursor.walk (List.prefix_refl _)
    rw [hscan]
    exact ⟨hend, h.source, hend⟩
  · have hblanks : blanks <+: text.drop l.cursor.position.toNat := by
      rw [hsplit]
      exact List.prefix_append _ _
    have hlexeme : blanks ++ lexeme.text <+: text.drop l.cursor.position.toNat := by
      rw [hsplit, ← List.append_assoc]
      exact List.prefix_append _ _
    rw [hscan]
    exact ⟨h.cursor.walk hblanks, h.source, h.cursor.walk hlexeme⟩

theorem next (h : l.ReadsFrom text) :
    l.next.Satisfies (·.start.Reached text) (Token.BeginIn text ·.handedOut) (ReadsFrom text) := by
  have hscan := h.scan
  rw [Lexer.next]
  cases hstep : l.scan with
  | error fault l' =>
    rw [hstep] at hscan
    exact hscan
  | ok token l' =>
    rw [hstep] at hscan
    refine ⟨hscan.1, ?_⟩
    split
    · exact hscan.2.note _
    · exact hscan.2

theorem advance (h : l.ReadsFrom text) :
    l.advance.Satisfies (fun _ => True) (Token.BeginIn text ·.handedOut) (ReadsFrom text) := by
  rw [Lexer.advance]
  split
  · exact ⟨Token.beginIn_nil text, h⟩
  · split
    · next c hcharacter =>
      rw [characterAt?, if_pos h.cursor.nonneg, h.source] at hcharacter
      obtain ⟨hlt, rfl⟩ := List.getElem?_eq_some_iff.1 hcharacter
      have hfirst : [text[l.cursor.position.toNat]] <+: text.drop l.cursor.position.toNat := by
        rw [List.drop_eq_getElem_cons hlt, List.prefix_cons_inj]
        exact List.nil_prefix
      exact ⟨trivial, h.source, h.cursor.walk hfirst⟩
    · exact ⟨Token.beginIn_nil text, h⟩

theorem current (h : l.ReadsFrom text) :
    l.current.Satisfies (fun _ => True) (Token.BeginIn text ·.handedOut) (ReadsFrom text) := by
  rw [Lexer.current]
  split
  · exact ⟨trivial, h⟩
  · split
    · exact ⟨trivial, h⟩
    · exact ⟨Token.beginIn_nil text, h⟩

theorem readNumeral (h : l.ReadsFrom text) :
    l.readNumeral.Satisfies (fun _ => True) (Token.BeginIn text ·.handedOut) (ReadsFrom text) := by
  refine ⟨trivial, h.skip ?_⟩
  exact Lexeme.numeralAfter_isPrefix false false l.rest

theorem skipBlanks (h : l.ReadsFrom text) : l.skipBlanks.ReadsFrom text :=
  h.skip (List.takeWhile_prefix _)

end ReadsFrom

/-- The contract of the lexers of a text: what they read and what they complain about begins at
    places of the text. -/
def placeContract (text : List Char) : Parser.Contract where
  lexer := ReadsFrom text
  token token := token.start.Reached text
  fault fault := Token.BeginIn text fault.handedOut
  next _ hlexer := hlexer.next
  unexpected wrong expected hwrong := by
    have htoken : (ParseError.unexpected wrong expected).token = some wrong := by
      rw [ParseError.unexpected]
      split <;> rfl
    rw [Fault.handedOut, htoken]
    exact Token.beginIn_singleton.2 hwrong
  unsupported _ hwrong := Token.beginIn_singleton.2 hwrong

private theorem placeContract_lasts (text : List Char) : (placeContract text).Lasts :=
  fun _ event hlexer => hlexer.note event

end Lexer

namespace Session

/-- The tokens that an operation hands out, whether it fails or not. -/
def handedOut : Except Fault Answer → List Token
  | .ok answer => answer.handedOut
  | .error fault => fault.handedOut

/-- All tokens that a session hands out in the course of some operations. -/
def tokens (s : Session) (operations : List Operation) : List Token :=
  (s.answers operations).flatMap handedOut

/-- A session reads a text, and its marks are places of the text. -/
structure Sound (text : List Char) (s : Session) : Prop where
  lexer : s.lexer.ReadsFrom text
  marks : ∀ mark ∈ s.marks, mark.Reached text

private theorem sound_ofString (text : String) : (ofString text).Sound text.toList where
  lexer := ⟨rfl, .beginning _⟩
  marks := by simp [ofString]

namespace Sound

variable {s : Session} {text : List Char}

theorem take {α : Type} {P : α → Prop} {p : Parser α} {answer : α → Answer} (h : s.Sound text)
    (hp : (Lexer.placeContract text).Kept P p)
    (hanswer : ∀ a, P a → Token.BeginIn text (answer a).handedOut) :
    Token.BeginIn text (handedOut (s.take (p >>= fun a => pure (answer a))).1) ∧
      (s.take (p >>= fun a => pure (answer a))).2.Sound text := by
  have hkept : (Lexer.placeContract text).Kept (Token.BeginIn text ·.handedOut)
      (p >>= fun a => pure (answer a)) := hp.bind fun a ha => .pure (hanswer a ha)
  have hstep := hkept s.lexer h.lexer
  rw [Session.take]
  cases hrun : (p >>= fun a => pure (answer a) : Parser Answer) s.lexer with
  | ok a l =>
    rw [hrun] at hstep
    exact ⟨hstep.1, hstep.2, h.marks⟩
  | error fault l =>
    rw [hrun] at hstep
    exact ⟨hstep.1, hstep.2, h.marks⟩

theorem pull (h : s.Sound text) (pull : Pull) :
    Token.BeginIn text (handedOut (s.perform (.pull pull)).1) ∧
      (s.perform (.pull pull)).2.Sound text := by
  cases pull with
  | next => exact h.take .next fun _ htoken => Token.beginIn_singleton.2 htoken
  | peek => exact h.take .peek fun _ htoken => Token.beginIn_singleton.2 htoken
  | iterate =>
    apply h.take .next
    intro token htoken
    split
    · exact Token.beginIn_nil text
    · exact Token.beginIn_singleton.2 htoken
  | drain => exact h.take .drain fun _ htokens => htokens
  | skip =>
    apply h.take (P := fun _ => True)
    · exact fun l hlexer => ⟨trivial, hlexer.skipBlanks⟩
    · exact fun _ _ => Token.beginIn_nil text

/-- An operation hands out tokens of the text only, and leaves a sound session. -/
theorem perform (h : s.Sound text) (operation : Operation) :
    Token.BeginIn text (handedOut (s.perform operation).1) ∧
      (s.perform operation).2.Sound text := by
  have hnothing {α : Type} {answer : α → Answer} (hnone : ∀ a, (answer a).handedOut = []) (a : α) :
      True → Token.BeginIn text (answer a).handedOut := by
    rw [hnone]
    exact fun _ => Token.beginIn_nil text
  have hlasts := Lexer.placeContract_lasts text
  cases operation with
  | pull pull => exact h.pull pull
  | scan =>
    apply h.take (P := (·.start.Reached text))
    · exact fun l hlexer => hlexer.scan
    · exact fun _ htoken => Token.beginIn_singleton.2 htoken
  | readNumeral => exact h.take (fun l hlexer => hlexer.readNumeral) (hnothing fun _ => rfl)
  | advance => exact h.take (fun l hlexer => hlexer.advance) (hnothing fun _ => rfl)
  | current => exact h.take (fun l hlexer => hlexer.current) (hnothing fun _ => rfl)
  | ahead distance =>
    exact h.take (fun l hlexer => ⟨trivial, hlexer⟩) (hnothing fun _ => rfl)
  | atEnd => exact h.take (fun l hlexer => ⟨trivial, hlexer⟩) (hnothing fun _ => rfl)
  | mark =>
    refine ⟨Token.beginIn_nil text, h.lexer, fun mark hmark => ?_⟩
    rcases List.mem_append.1 hmark with hmark | hmark
    · exact h.marks mark hmark
    · rw [List.mem_singleton.1 hmark]
      exact h.lexer.cursor
  | reset index =>
    refine ⟨Token.beginIn_nil text, ⟨h.lexer.source, ?_⟩, h.marks⟩
    simp only [Session.perform, List.getD_eq_getElem?_getD]
    cases hmark : s.marks[index]? with
    | none => exact h.lexer.cursor
    | some mark => exact h.marks mark (List.mem_of_getElem? hmark)
  | expect kind expected =>
    exact h.take (.expect kind expected) fun _ htoken => Token.beginIn_singleton.2 htoken
  | demand kind expected => exact h.take (.demand kind expected) (hnothing fun _ => rfl)
  | primary => exact h.take .primary (hnothing fun _ => rfl)
  | expression least => exact h.take (.expression least) (hnothing fun _ => rfl)
  | binding keyword => exact h.take (.binding hlasts keyword) (hnothing fun _ => rfl)
  | statement => exact h.take (.statement hlasts) (hnothing fun _ => rfl)
  | program => exact h.take (.program hlasts) (hnothing fun _ => rfl)

/-- Operation by operation, what a session hands out begins in the text. -/
theorem run (h : s.Sound text) (operations : List Operation) :
    Token.BeginIn text (s.tokens operations) ∧ (s.after operations).Sound text := by
  induction operations generalizing s with
  | nil => exact ⟨Token.beginIn_nil text, h⟩
  | cons operation operations ih =>
    obtain ⟨hhanded, hbehind⟩ := h.perform operation
    obtain ⟨hrest, hlast⟩ := ih hbehind
    refine ⟨fun token htoken => ?_, hlast⟩
    rw [tokens, answers, List.flatMap_cons, List.mem_append] at htoken
    rcases htoken with htoken | htoken
    · exact hhanded token htoken
    · exact hrest token htoken

end Sound

end Session

/-- Whatever is asked of a session at the beginning of a text, and whatever of it fails, its cursor
    and the beginning of every token that it hands out lie in the text, with the line and the column
    of their offset. So tokens of one text come in the same order by lines and columns as by
    offsets. -/
theorem cursor_and_tokens_placed (text : String) :
    (∀ operations, ((Session.ofString text).after operations).lexer.cursor.Placed text.toList) ∧
    (∀ operations, ∀ token ∈ (Session.ofString text).tokens operations,
      token.start.Placed text.toList) ∧
    ∀ operations others, ∀ token ∈ (Session.ofString text).tokens operations,
      ∀ other ∈ (Session.ofString text).tokens others,
        (token.start.location.key < other.start.location.key ↔
          token.start.position < other.start.position) ∧
        (token.start.location = other.start.location ↔
          token.start.position = other.start.position) := by
  have hrun := (Session.sound_ofString text).run
  refine ⟨fun operations => ?_, fun operations token htoken => ?_, ?_⟩
  · exact (hrun operations).2.lexer.cursor.placed
  · exact ((hrun operations).1 token htoken).placed
  · intro operations others token htoken other hother
    have hstart := (hrun operations).1 token htoken
    have hother := (hrun others).1 other hother
    exact ⟨hstart.location_key_lt_iff hother, hstart.location_eq_iff hother⟩

/-- A token behind a line feed, met by a failing parser after going back to a mark, beside a token
    of the line before. -/
theorem placed_around_line_feed :
    let operations := [.mark, .pull .next, .advance, .reset 0, .pull .skip, .advance, .statement]
    let first : Token := ⟨.identifier, "a", ⟨1, 1, 2⟩⟩
    let wrong : Token := ⟨.invalid, "?", ⟨3, 2, 1⟩⟩
    first ∈ (Session.ofString " a\n?").tokens [.scan] ∧
      wrong ∈ (Session.ofString " a\n?").tokens operations ∧
      wrong.start.Placed " a\n?".toList ∧
      (first.start.location.key < wrong.start.location.key ↔
        first.start.position < wrong.start.position) := by
  intro operations first wrong
  have hfirst : first ∈ (Session.ofString " a\n?").tokens [.scan] := by decide +kernel
  have hwrong : wrong ∈ (Session.ofString " a\n?").tokens operations := by decide +kernel
  obtain ⟨-, hplaced, horder⟩ := cursor_and_tokens_placed " a\n?"
  exact ⟨hfirst, hwrong, hplaced operations wrong hwrong,
    (horder [.scan] operations first hfirst wrong hwrong).1⟩

end LetArith
