import LetArith.Proofs.Session
import LetArith.Proofs.Trace

namespace LetArith

theorem Token.scan_dropWhile (cursor : Cursor) (text : List Char) :
    Token.scan (cursor.walk (text.takeWhile Text.isBlank)) (text.dropWhile Text.isBlank) =
      Token.scan cursor text := by
  have hempty : Text.Blank [] := by simp [Text.Blank]
  induction text using Piece.induction with
  | blank text hblank =>
    rw [List.takeWhile_eq_self_iff.2 hblank, List.dropWhile_eq_nil_iff.2 hblank,
      scan_of_blank cursor hblank, scan_of_blank _ hempty]
    rfl
  | piece blanks lexeme behind hblanks hfirst hsolid =>
    obtain ⟨htaken, hdropped⟩ := Piece.takeWhile_append hblanks hfirst hsolid
    have hscan := scan_append (cursor.walk blanks) hempty hfirst hsolid
    rw [htaken, hdropped, scan_append cursor hblanks hfirst hsolid, Cursor.walk_append]
    exact hscan

namespace Lexer

/-- Skipping blanks first makes no difference to what is read. -/
theorem next_skipBlanks (l : Lexer) : l.skipBlanks.next = l.next := by
  by_cases hposition : 0 ≤ l.cursor.position
  · let blanks := l.rest.takeWhile Text.isBlank
    have hrest : l.source.drop l.cursor.position.toNat = l.rest := by
      rw [rest, if_pos hposition]
    have hbehind : l.rest.drop blanks.length = l.rest.dropWhile Text.isBlank := by
      calc l.rest.drop blanks.length
          = (blanks ++ l.rest.dropWhile Text.isBlank).drop blanks.length := by
            rw [List.takeWhile_append_dropWhile]
        _ = l.rest.dropWhile Text.isBlank := List.drop_left
    have hwalked : (l.cursor.walk blanks).position.toNat =
        l.cursor.position.toNat + blanks.length := by
      rw [Cursor.position_walk]
      omega
    have hskipped : tokenAt? l.skipBlanks.source l.skipBlanks.cursor =
        some (Token.scan l.cursor l.rest) := by
      change tokenAt? l.source (l.cursor.walk blanks) = _
      rw [tokenAt?, if_pos (by rw [Cursor.position_walk]; omega), hwalked, ← List.drop_drop, hrest,
        hbehind, Token.scan_dropWhile]
    rw [next_eq, next_eq, hskipped, tokenAt?_eq_scan hposition]
    rfl
  · have hrest : l.rest = [] := by
      rw [rest, if_neg hposition]
    rw [skipBlanks, hrest]
    rfl

theorem diagnostics_of_next {l l' : Lexer} {token : Token} (h : l.next = .ok token l') :
    l'.diagnostics =
      l.diagnostics ++ ([token].filter (·.kind = .invalid)).map Event.complaint := by
  obtain ⟨cursor, -, rfl⟩ := next_eq_ok_iff.1 h
  simp only [diagnostics, List.filterMap_append]
  by_cases hkind : token.kind = .invalid <;> simp [complaints, hkind, Event.complaint?]

/-- Reading tokens adds the complaints about those that no grammar admits, and no others. -/
theorem Reads.diagnostics {l l' : Lexer} {tokens : List Token} (h : Reads l tokens l') :
    l'.diagnostics =
      l.diagnostics ++ (tokens.filter (·.kind = .invalid)).map Event.complaint := by
  induction h with
  | nil halike => simp [halike.diagnostics]
  | @cons l l₁ l₂ token tokens hnext _ ih =>
    rw [ih, diagnostics_of_next hnext, List.append_assoc, ← List.map_append, ← List.filter_append,
      List.singleton_append]

theorem diagnostics_of_drain {l l' : Lexer} {tokens : List Token} (hwithin : l.Within)
    (hdrain : l.drain = .ok tokens l') :
    l'.diagnostics =
      l.diagnostics ++ (tokens.filter (·.kind = .invalid)).map Event.complaint := by
  obtain ⟨tokens', last, l₁, l₂, hdrain', hreads, hlast, hend, -⟩ := exists_drain hwithin
  obtain ⟨rfl, rfl⟩ := EStateM.Result.ok.inj (hdrain.symm.trans hdrain')
  simp [diagnostics_of_next hlast, hreads.diagnostics, hend]

end Lexer

/-- Whether a pull consumes nothing. -/
def Pull.Idle : Pull → Prop
  | .peek | .skip => True
  | .next | .iterate | .drain => False

/-- The tokens of a text and the one for the end of input, which never runs out. -/
structure Supply where
  tokens : List Token
  last : Token

namespace Supply

variable (supply : Supply)

/-- The token that comes behind so many others. -/
def token (n : Nat) : Token := supply.tokens[n]?.getD supply.last

/-- What a pull answers when so many tokens were consumed. -/
def answer (n : Nat) : Pull → Answer
  | .next | .peek => .token (supply.token n)
  | .iterate => if supply.tokens.length ≤ n then .stop else .token (supply.token n)
  | .drain => .tokens (supply.tokens.drop n)
  | .skip => .nothing

/-- How many tokens were consumed behind a pull. Draining consumes the token for the end of input
    as well. -/
def consumed (n : Nat) : Pull → Nat
  | .next | .iterate => n + 1
  | .drain => max n supply.tokens.length + 1
  | .peek | .skip => n

/-- What one pull after another answers when so many tokens were consumed before. -/
def answers (n : Nat) : List Pull → List Answer
  | [] => []
  | pull :: pulls => supply.answer n pull :: answers (supply.consumed n pull) pulls

/-- The complaints about the first so many tokens. -/
def complaints (n : Nat) : List String :=
  (((List.range n).map supply.token).filter (·.kind = .invalid)).map Event.complaint

private theorem complaints_succ (n : Nat) :
    supply.complaints (n + 1) = supply.complaints n ++
      ([supply.token n].filter (·.kind = .invalid)).map Event.complaint := by
  simp only [complaints, List.range_succ, List.map_append, List.filter_append, List.map_singleton]

/-- A supply is made up of the tokens of a text and the one for its end. -/
structure Of (text : String) : Prop where
  tokenize : tokenize text = .ok supply.tokens
  tokensToEnd : tokensToEnd text = .ok (supply.tokens ++ [supply.last])
  inside : ∀ token ∈ supply.tokens, token.kind ≠ .endOfInput
  last_kind : supply.last.kind = .endOfInput
  next : ∀ n, ((Lexer.ofString text).after n).next =
    .ok (supply.token n) ((Lexer.ofString text).after (n + 1))

variable {supply : Supply} {text : String}

theorem token_of_length_le {n : Nat} (hn : supply.tokens.length ≤ n) :
    supply.token n = supply.last := by
  rw [token, List.getElem?_eq_none hn, Option.getD_none]

theorem Of.kind_token_iff (h : supply.Of text) (n : Nat) :
    (supply.token n).kind = .endOfInput ↔ supply.tokens.length ≤ n := by
  by_cases hn : n < supply.tokens.length
  · rw [token, List.getElem?_eq_getElem hn, Option.getD_some]
    exact iff_of_false (h.inside _ (List.getElem_mem hn)) (by omega)
  · rw [token_of_length_le (by omega)]
    exact iff_of_true h.last_kind (by omega)

theorem exists_of (text : String) : ∃ supply : Supply, supply.Of text := by
  obtain ⟨tokens, last, l, l', hdrain, hreads, hlast, hend, hinside⟩ :=
    Lexer.exists_drain (Lexer.within_ofString text)
  obtain ⟨htokenize, htokensToEnd⟩ :=
    tokens_of_drain hdrain (Lexer.next_of_endOfInput hlast hend)
  let supply : Supply := ⟨tokens, last⟩
  refine ⟨supply, htokenize, htokensToEnd, hinside, hend, fun n => ?_⟩
  have hread {n : Nat} (hn : n ≤ tokens.length) : ((Lexer.ofString text).after n).next =
      .ok (supply.token n) ((Lexer.ofString text).after (n + 1)) := by
    have hlength : n < (tokens ++ [last]).length := by
      rw [List.length_append, List.length_singleton]
      omega
    have htoken : supply.token n = (tokens ++ [last])[n] := by
      rcases Nat.lt_or_eq_of_le hn with hlt | rfl
      · rw [token, List.getElem?_eq_getElem hlt, List.getElem_append_left hlt, Option.getD_some]
      · rw [token_of_length_le (Nat.le_refl _), List.getElem_concat_length rfl]
    rw [htoken]
    exact (hreads.snoc hlast).next_after hlength
  induction n with
  | zero => exact hread (Nat.zero_le _)
  | succ n ih =>
    by_cases hn : n + 1 ≤ tokens.length
    · exact hread hn
    · -- The token for the end of input was read before, and is read again and again.
      have hlength : supply.tokens.length ≤ n := Nat.le_of_lt_succ (Nat.lt_of_not_le hn)
      rw [token_of_length_le hlength] at ih
      have hnext := Lexer.next_of_endOfInput ih hend
      rw [token_of_length_le (Nat.le_succ_of_le hlength), Lexer.after_succ_of_next_after hnext]
      exact hnext

/-- A lexer of a text that reads on where so many tokens were consumed. -/
structure Awaited (supply : Supply) (text : String) (n : Nat) (l : Lexer) : Prop where
  next : l.next = .ok (supply.token n) ((Lexer.ofString text).after (n + 1))
  diagnostics : l.diagnostics = supply.complaints n

namespace Awaited

theorem after (h : supply.Of text) (n : Nat) :
    supply.Awaited text n ((Lexer.ofString text).after n) := by
  refine ⟨h.next n, ?_⟩
  induction n with
  | zero => rfl
  | succ n ih => rw [Lexer.diagnostics_of_next (h.next n), ih, complaints_succ]

theorem skipBlanks {n : Nat} {l : Lexer} (hl : supply.Awaited text n l) :
    supply.Awaited text n l.skipBlanks :=
  ⟨(Lexer.next_skipBlanks l).trans hl.next, hl.diagnostics⟩

theorem drain (h : supply.Of text) {n : Nat} {l : Lexer} (hl : supply.Awaited text n l) :
    l.drain = .ok (supply.tokens.drop n)
      ((Lexer.ofString text).after (max n supply.tokens.length + 1)) := by
  rw [Lexer.drain_of_next hl.next]
  induction hleft : supply.tokens.length - n generalizing n l with
  | zero =>
    have hn : supply.tokens.length ≤ n := by omega
    rw [if_pos ((h.kind_token_iff n).2 hn), List.drop_eq_nil_of_le hn, Nat.max_eq_left hn]
  | succ k ih =>
    have hn : n < supply.tokens.length := by omega
    have htoken : supply.token n = supply.tokens[n] := by
      rw [token, List.getElem?_eq_getElem hn, Option.getD_some]
    have hrest := ih (after h (n + 1)) (by omega)
    rw [← Lexer.drain_of_next (h.next (n + 1))] at hrest
    rw [if_neg (by rw [h.kind_token_iff]; omega), hrest, htoken, List.drop_eq_getElem_cons hn,
      Nat.max_eq_right hn, Nat.max_eq_right (Nat.le_of_lt hn)]

/-- A pull answers from the supply and uses it up as far as it consumes tokens. -/
theorem perform (h : supply.Of text) {n : Nat} {s : Session}
    (hs : supply.Awaited text n s.lexer) (pull : Pull) :
    (s.perform (.pull pull)).1 = .ok (supply.answer n pull) ∧
      supply.Awaited text (supply.consumed n pull) (s.perform (.pull pull)).2.lexer := by
  simp only [Session.perform, Session.take]
  cases pull with
  | next =>
    simp only [Pull.read, bind, EStateM.bind, hs.next]
    exact ⟨rfl, after h (n + 1)⟩
  | peek =>
    have hpeek : s.lexer.peek = .ok (supply.token n) s.lexer :=
      Lexer.peek_eq_ok_iff.2 ⟨⟨_, hs.next⟩, rfl⟩
    simp only [Pull.read, bind, EStateM.bind, hpeek]
    exact ⟨rfl, hs⟩
  | iterate =>
    simp only [Pull.read, bind, EStateM.bind, hs.next, h.kind_token_iff]
    exact ⟨rfl, after h (n + 1)⟩
  | drain =>
    simp only [Pull.read, bind, EStateM.bind, hs.drain h]
    exact ⟨rfl, after h _⟩
  | skip => exact ⟨rfl, hs.skipBlanks⟩

/-- One pull after another answers from the supply. -/
theorem answers (h : supply.Of text) {n : Nat} {s : Session}
    (hs : supply.Awaited text n s.lexer) (pulls : List Pull) :
    s.answers (pulls.map .pull) = (supply.answers n pulls).map .ok ∧
      supply.Awaited text (pulls.foldl supply.consumed n) (s.after (pulls.map .pull)).lexer := by
  induction pulls generalizing n s with
  | nil => exact ⟨rfl, hs⟩
  | cons pull pulls ih =>
    obtain ⟨hanswer, hbehind⟩ := hs.perform h pull
    obtain ⟨hanswers, hlast⟩ := ih hbehind
    refine ⟨?_, hlast⟩
    simp only [List.map_cons, Session.answers, Supply.answers, hanswer, hanswers]

end Awaited

theorem consumed_of_idle {idle : Pull} (hidle : idle.Idle) (n : Nat) :
    supply.consumed n idle = n := by
  cases idle with
  | peek | skip => rfl
  | next | iterate | drain => cases hidle

private theorem answers_eraseIdx {idle : Pull} (hidle : idle.Idle) (n : Nat)
    (before behind : List Pull) :
    (supply.answers n (before ++ idle :: behind)).eraseIdx before.length =
      supply.answers n (before ++ behind) := by
  induction before generalizing n with
  | nil =>
    simp only [List.nil_append, answers, consumed_of_idle hidle]
    rfl
  | cons pull before ih =>
    simp only [List.cons_append, answers, List.length_cons, List.eraseIdx_cons_succ, ih]

end Supply

/-- In whatever order tokens are pulled from a text, each pull answers from one supply: a token that
    is consumed is the next one of the supply, a peek shows that token and changes nothing,
    draining takes all that is left, and the complaints are about what was consumed. A pull that
    consumes nothing may be left out, or put in, without a difference to any other. -/
theorem pulls_answer_from_supply (text : String) :
    ∃ supply : Supply, supply.Of text ∧
      (∀ pulls : List Pull,
        let behind := (Session.ofString text).after (pulls.map .pull)
        let consumed := pulls.foldl supply.consumed 0
        (Session.ofString text).answers (pulls.map .pull) = (supply.answers 0 pulls).map .ok ∧
        behind.lexer.diagnostics = supply.complaints consumed ∧
        behind.perform (.pull .peek) = (.ok (.token (supply.token consumed)), behind)) ∧
      ∀ (idle : Pull) (before behind : List Pull), idle.Idle →
        let without := (before ++ behind).map Operation.pull
        let operations := (before ++ idle :: behind).map Operation.pull
        (Session.ofString text).answers without =
          ((Session.ofString text).answers operations).eraseIdx before.length ∧
        ((Session.ofString text).after without).lexer.diagnostics =
          ((Session.ofString text).after operations).lexer.diagnostics := by
  obtain ⟨supply, h⟩ := Supply.exists_of text
  have hstart : supply.Awaited text 0 (Session.ofString text).lexer := .after h 0
  refine ⟨supply, h, fun pulls => ?_, fun idle before behind hidle => ?_⟩
  · obtain ⟨hanswers, hbehind⟩ := hstart.answers h pulls
    refine ⟨hanswers, hbehind.diagnostics, ?_⟩
    have hpeek := Lexer.peek_eq_ok_iff.2 ⟨⟨_, hbehind.next⟩, rfl⟩
    simp only [Session.perform, Session.take, Pull.read, bind, EStateM.bind, hpeek]
    rfl
  · obtain ⟨hwithout, hbehind⟩ := hstart.answers h (before ++ behind)
    obtain ⟨hanswers, hbehind'⟩ := hstart.answers h (before ++ idle :: behind)
    refine ⟨?_, ?_⟩
    · rw [hwithout, hanswers, ← Supply.answers_eraseIdx hidle]
      simp only [List.eraseIdx_eq_take_drop_succ, List.map_append, List.map_take, List.map_drop]
    · rw [hbehind.diagnostics, hbehind'.diagnostics]
      simp only [List.foldl_append, List.foldl_cons, Supply.consumed_of_idle hidle]

/-- Two names with a stray character between them, with a peek before the last of them. -/
theorem pulls_of_names_and_stray :
    Pull.Idle .peek ∧
      let without := [Operation.pull .next, .pull .drain]
      let operations := [Operation.pull .next, .pull .peek, .pull .drain]
      (Session.ofString "a ?b").answers without =
        ((Session.ofString "a ?b").answers operations).eraseIdx 1 ∧
      ((Session.ofString "a ?b").after without).lexer.diagnostics =
        ((Session.ofString "a ?b").after operations).lexer.diagnostics := by
  have hidle : Pull.Idle .peek := trivial
  obtain ⟨-, -, -, herase⟩ := pulls_answer_from_supply "a ?b"
  exact ⟨hidle, herase .peek [.next] [.drain] hidle⟩

end LetArith
