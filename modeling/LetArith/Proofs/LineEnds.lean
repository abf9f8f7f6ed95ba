import LetArith.Proofs.Atomicity
import LetArith.Proofs.Matching
import LetArith.Proofs.Utf8

namespace LetArith

open Grammar

namespace Text

/-- The spellings of a line end. -/
def lineEnds : List (List Char) := [['\n'], ['\r', '\n'], ['\r']]

/-- A text with each of its line feeds written as a line end. -/
def withLineEnds (lineEnd text : List Char) : List Char :=
  text.flatMap fun c => if c = '\n' then lineEnd else [c]

theorem withLineEnds_append (lineEnd before behind : List Char) :
    withLineEnds lineEnd (before ++ behind) =
      withLineEnds lineEnd before ++ withLineEnds lineEnd behind := List.flatMap_append

theorem withLineEnds_cons_of_ne (lineEnd : List Char) {c : Char} (hc : c ≠ '\n')
    (text : List Char) : withLineEnds lineEnd (c :: text) = c :: withLineEnds lineEnd text := by
  rw [withLineEnds, List.flatMap_cons, if_neg hc, List.singleton_append, ← withLineEnds]

theorem withLineEnds_cons_lineFeed (lineEnd text : List Char) :
    withLineEnds lineEnd ('\n' :: text) = lineEnd ++ withLineEnds lineEnd text := by
  rw [withLineEnds, List.flatMap_cons, if_pos rfl, ← withLineEnds]

theorem withLineEnds_of_notMem (lineEnd : List Char) {text : List Char} (h : '\n' ∉ text) :
    withLineEnds lineEnd text = text := by
  induction text with
  | nil => rfl
  | cons c text ih =>
    obtain ⟨hc, htext⟩ := List.ne_and_not_mem_of_not_mem_cons h
    rw [withLineEnds_cons_of_ne lineEnd hc.symm, ih htext]

section Unify

theorem unifyLineEnds_cons {c : Char} {rest : List Char} (h : c = '\r' → rest.head? ≠ some '\n') :
    unifyLineEnds (c :: rest) = (if c = '\r' then '\n' else c) :: unifyLineEnds rest := by
  rw [unifyLineEnds]
  rintro others rfl rfl
  exact h rfl rfl

/-- Unifying the line ends of a text undoes the writing of line feeds as any one of them. -/
theorem unifyLineEnds_withLineEnds {lineEnd text : List Char} (hlineEnd : lineEnd ∈ lineEnds)
    (htext : '\r' ∉ text) : unifyLineEnds (withLineEnds lineEnd text) = text := by
  induction text with
  | nil => rfl
  | cons c text ih =>
    obtain ⟨hc, hrest⟩ := List.ne_and_not_mem_of_not_mem_cons htext
    have hunified := ih hrest
    by_cases hfeed : c = '\n'
    · rw [hfeed, withLineEnds_cons_lineFeed]
      simp only [lineEnds, List.mem_cons, List.not_mem_nil, or_false] at hlineEnd
      rcases hlineEnd with rfl | rfl | rfl
      · rw [List.singleton_append, unifyLineEnds_cons (by simp), hunified]
        rfl
      · rw [List.cons_append, List.singleton_append, unifyLineEnds, hunified]
      · -- No line feed is left that could belong to the carriage return.
        have hhead : (withLineEnds ['\r'] text).head? ≠ some '\n' := by
          cases text with
          | nil => simp [withLineEnds]
          | cons d text =>
            by_cases hd : d = '\n'
            · simp [hd, withLineEnds_cons_lineFeed]
            · simp [hd, withLineEnds_cons_of_ne]
        rw [List.singleton_append, unifyLineEnds_cons fun _ => hhead, hunified]
        rfl
    · rw [withLineEnds_cons_of_ne lineEnd hfeed, unifyLineEnds_cons fun h => absurd h.symm hc,
        if_neg hc.symm, hunified]

end Unify

section Blanks

variable {lineEnd : List Char} (hblank : Blank lineEnd) (hne : lineEnd ≠ [])

include hblank

theorem blank_withLineEnds {text : List Char} (htext : Blank text) :
    Blank (withLineEnds lineEnd text) := by
  intro c hc
  obtain ⟨d, hd, hmem⟩ := List.mem_flatMap.1 hc
  split at hmem
  · exact hblank c hmem
  · rw [List.mem_singleton.1 hmem]
    exact htext d hd

include hne

/-- A lexeme ends at a line end, however line ends are written. -/
theorem first?_withLineEnds {text : List Char} (hhead : text.head? ≠ some '\n') :
    Lexeme.first? (withLineEnds lineEnd text) = Lexeme.first? text := by
  -- The first line of the text, and a line feed behind it unless it is the last line, too.
  set front := text.takeWhile (· != '\n') with hfront
  set behind := text.dropWhile (· != '\n') with hbehind
  have htext : front ++ behind = text := List.takeWhile_append_dropWhile
  have hnotMem : '\n' ∉ front := fun hmem => by simpa using List.mem_takeWhile_imp hmem
  have hstop : ∀ c ∈ behind.head?, c = '\n' := by
    intro c hc
    have hnot := List.head?_dropWhile_not (· != '\n') text
    rw [← hbehind, hc] at hnot
    simpa using hnot
  have hblanks : ∀ c ∈ behind.head?, isBlank c := by
    intro c hc
    rw [hstop c hc]
    decide +kernel
  have hblanks' : ∀ c ∈ (withLineEnds lineEnd behind).head?, isBlank c := by
    cases hcases : behind with
    | nil => simp [withLineEnds]
    | cons c rest =>
      obtain rfl := hstop c (by simp [hcases])
      rw [withLineEnds_cons_lineFeed, List.head?_append_of_ne_nil _ hne]
      exact fun d hd => hblank d (List.mem_of_head? hd)
  rw [← htext, withLineEnds_append, withLineEnds_of_notMem lineEnd hnotMem]
  cases hfirst : Lexeme.first? front with
  | none =>
    have hnil : front = [] := Lexeme.first?_eq_none_iff.1 hfirst
    rw [hnil, List.nil_append] at htext ⊢
    cases hcases : behind with
    | nil => rfl
    | cons c rest =>
      rw [← htext, hcases, List.head?_cons, hstop c (by simp [hcases])] at hhead
      exact absurd rfl hhead
  | some lexeme =>
    rw [Lexeme.first?_append hfirst fun c hc => Kind.takes_eq_false_of_isBlank (hblanks c hc),
      Lexeme.first?_append hfirst fun c hc => Kind.takes_eq_false_of_isBlank (hblanks' c hc)]

end Blanks

end Text

theorem Text.lineFeed_notMem_of_solid {text : List Char} (hsolid : Solid text) : '\n' ∉ text := by
  intro hmem
  have hblank : isBlank '\n' := by decide +kernel
  rw [hsolid _ hmem] at hblank
  cases hblank

/-- A piece with the line ends in its blanks written anew. -/
def Piece.withLineEnds (lineEnd : List Char) (piece : Piece) : Piece :=
  ⟨Text.withLineEnds lineEnd piece.blanks, piece.lexeme⟩

theorem Piece.text_withLineEnds (lineEnd : List Char) {piece : Piece}
    (hpiece : '\n' ∉ piece.lexeme.text) :
    (piece.withLineEnds lineEnd).text = Text.withLineEnds lineEnd piece.text := by
  rw [text, text, Text.withLineEnds_append, Text.withLineEnds_of_notMem lineEnd hpiece]
  rfl

/-- Whatever blanks its line ends are, a text has the same lexemes. -/
theorem Piece.all_withLineEnds {lineEnd : List Char} (hblank : Text.Blank lineEnd)
    (hne : lineEnd ≠ []) (text : List Char) :
    all (Text.withLineEnds lineEnd text) = (all text).map (withLineEnds lineEnd) := by
  induction text using Piece.induction with
  | blank text htext =>
    rw [all_of_blank htext, all_of_blank (Text.blank_withLineEnds hblank htext)]
    rfl
  | piece blanks lexeme rest hblanks hfirst hsolid ih =>
    have hfeed := Text.lineFeed_notMem_of_solid hsolid
    have hhead : (lexeme.text ++ rest).head? ≠ some '\n' := by
      intro hhead
      rw [List.head?_append_of_ne_nil _ (Lexeme.first?_ne_nil hfirst).2] at hhead
      exact hfeed (List.mem_of_head? hhead)
    have hfirst' := Text.first?_withLineEnds hblank hne hhead
    rw [Text.withLineEnds_append, Text.withLineEnds_of_notMem lineEnd hfeed, hfirst] at hfirst'
    rw [Text.withLineEnds_append, Text.withLineEnds_append,
      Text.withLineEnds_of_notMem lineEnd hfeed, all_append hblanks hfirst hsolid,
      all_append (Text.blank_withLineEnds hblank hblanks) hfirst' hsolid, ih]
    rfl

section Places

/-- What a token shows: its kind, its literal, and its place as a line and a column. -/
def Token.shown (token : Token) : Kind × String × Location :=
  (token.kind, token.literal, token.start.location)

variable {cursor cursor' : Cursor}

theorem Cursor.location_step_eq (h : cursor.location = cursor'.location) (c : Char) :
    (cursor.step c).location = (cursor'.step c).location := by
  obtain ⟨hline, hcolumn⟩ := Location.mk.inj h
  unfold step
  split <;> simp only [location, hline, hcolumn]

/-- Behind a line feed nothing is left of the column that a carriage return has before it. -/
theorem Cursor.location_walk_doubled (h : cursor.location = cursor'.location) (text : List Char) :
    (cursor.walk text).location =
      (cursor'.walk (Text.withLineEnds ['\r', '\n'] text)).location := by
  induction text generalizing cursor cursor' with
  | nil => exact h
  | cons c text ih =>
    by_cases hfeed : c = '\n'
    · obtain ⟨hline, -⟩ := Location.mk.inj h
      rw [hfeed, Text.withLineEnds_cons_lineFeed]
      apply ih
      simp [step, location, hline]
    · rw [Text.withLineEnds_cons_of_ne _ hfeed]
      exact ih (location_step_eq h c)

theorem Piece.map_shown_doubled (h : cursor.location = cursor'.location) {pieces : List Piece}
    (hsolid : ∀ piece ∈ pieces, '\n' ∉ piece.lexeme.text) :
    (tokens cursor pieces).map Token.shown =
      (tokens cursor' (pieces.map (withLineEnds ['\r', '\n']))).map Token.shown := by
  induction pieces generalizing cursor cursor' with
  | nil => rfl
  | cons piece pieces ih =>
    obtain ⟨hpiece, hsolid⟩ := List.forall_mem_cons.1 hsolid
    have hstart := Cursor.location_walk_doubled h piece.blanks
    have hbehind := Cursor.location_walk_doubled h piece.text
    rw [← text_withLineEnds _ hpiece] at hbehind
    rw [List.map_cons, tokens, tokens, List.map_cons, List.map_cons, ih hbehind hsolid,
      Token.shown, Token.shown, hstart]
    rfl

end Places

/-- Texts whose tokens show the same are parsed to the same trees with the same places, or refused
    with the same message. -/
theorem parse_mapError_eq_of_map_shown {text other : String} {tokens others : List Token}
    (htokens : tokensToEnd text = .ok tokens) (hothers : tokensToEnd other = .ok others)
    (hshown : tokens.map Token.shown = others.map Token.shown) :
    (parse text).mapError Fault.message = (parse other).mapError Fault.message := by
  rw [map_eq_map_iff_forall₂] at hshown
  have hword {token other : Token} (h : token.shown = other.shown) : token.word = other.word := by
    obtain ⟨hkind, hbehind⟩ := Prod.mk.inj h
    exact Prod.ext hkind (Prod.mk.inj hbehind).1
  have hplace {token other : Token} (h : token.shown = other.shown) :
      token.start.location = other.start.location := (Prod.mk.inj (Prod.mk.inj h).2).2
  have hmatch : List.Forall₂ (Token.Match Eq) tokens others :=
    hshown.imp fun _ _ h => Token.match_of_word_eq (hword h) (hplace h)
  rcases parse_match htokens hothers hmatch with
    ⟨nodes, nodes', hparse, hparse', hnodes⟩ |
    ⟨previous, i, wrong, wrong', hwrong, hwrong', -, hparse, hparse'⟩
  · rw [hparse, hparse', Node.eq_of_match hnodes]
  · have hsame : wrong.shown = wrong'.shown := rel_of_forall₂_getElem? hshown hwrong hwrong'
    have hmessage := (offence previous wrong).message_eq_of_location_eq (hplace hsame)
    rw [← offence_eq_of_word_eq previous (hword hsame)] at hmessage
    rw [hparse, hparse']
    exact congrArg Except.error hmessage

/-- A text and the same text with carriage returns before its line feeds have tokens that show the
    same. -/
theorem map_shown_eq (text : String) :
    ∃ tokens others,
      tokensToEnd text = .ok tokens ∧
      tokensToEnd (String.ofList (Text.withLineEnds ['\r', '\n'] text.toList)) = .ok others ∧
      tokens.map Token.shown = others.map Token.shown := by
  have hblank : Text.Blank ['\r', '\n'] := List.all_eq_true.1 (by decide +kernel)
  have hothers :=
    (tokens_eq (String.ofList (Text.withLineEnds ['\r', '\n'] text.toList))).2
  rw [String.toList_ofList, Piece.all_withLineEnds hblank (by simp)] at hothers
  have hsolid : ∀ piece ∈ Piece.all text.toList, '\n' ∉ piece.lexeme.text := fun piece hpiece =>
    Text.lineFeed_notMem_of_solid
      (Lexeme.solid_of_mem_lexemes (Piece.text_mem_lexemes text.toList piece hpiece))
  have hend := @Cursor.location_walk_doubled {} {} rfl text.toList
  refine ⟨_, _, (tokens_eq text).2, hothers, ?_⟩
  rw [List.map_append, List.map_append, Piece.map_shown_doubled rfl hsolid, List.map_singleton,
    List.map_singleton, Token.shown, Token.shown, hend]

section Files

/-- A source file holds a text, with its line ends written in one of the three ways. -/
def Folder.Holds (d : Folder) (source : String) (text : List Char) : Prop :=
  sourceSuffix.toList.isSuffixOf source.toList ∧ ∃ lineEnd ∈ Text.lineEnds,
    d.load source = .ok (Text.Utf8.encode (Text.withLineEnds lineEnd text))

namespace Request

/-- The record of reading a source file. -/
def begun (source : String) : Record := ⟨.commandLine, .info, "reading " ++ source⟩

/-- From a source file that holds a text, the text is read whatever its line ends are. -/
theorem text_of_holds {request : Request} {w : Workspace} {source : String} {text : List Char}
    (hsource : request.source = source) (hinline : request.inline = false)
    (hholds : w.folder.Holds source text) (htext : '\r' ∉ text) :
    request.text .debug w.folder.load w =
      .ok text { w with records := w.records ++ [begun source] } := by
  obtain ⟨hsuffix, lineEnd, hlineEnd, hload⟩ := hholds
  have hnames : request.namesSourceFile = true := by
    rw [namesSourceFile, hsource]
    exact hsuffix
  have hdecode := Text.Utf8.decode_encode (Text.withLineEnds lineEnd text)
  have hunified := Text.unifyLineEnds_withLineEnds hlineEnd htext
  simp only [Request.text, hinline, hnames, hsource, Bool.not_true, Bool.false_eq_true, if_false,
    hload, Job.ofExcept, pure_bind, hdecode, Except.mapError, hunified]
  rfl

private theorem run_of_text {request : Request} {w w' : Workspace} {text : List Char}
    (htext : request.text .debug w.folder.load w = .ok text w') :
    request.run w = (request.rendering {} .debug text >>= request.deliver {} .debug) w' := by
  change ((request.text .debug w.folder.load >>= request.rendering {} .debug) >>=
    request.deliver {} .debug) w = _
  simp only [bind, EStateM.bind, htext]

/-- What a run does once it has its source text depends on the text alone, but for what was recorded
    before. -/
theorem exists_ended (request : Request) (text : List Char) (w : Workspace) :
    ∃ outcome folder printed records, ∀ before,
      (request.rendering {} .debug text >>= request.deliver {} .debug)
          { w with records := before } =
        ended outcome ⟨folder, printed, before ++ records⟩ := by
  obtain ⟨outcome, ⟨records, hrendering⟩, -⟩ := request.finishes_rendering {} .debug text
  cases outcome with
  | error failure =>
    refine ⟨.error failure, w.folder, w.printed, records, fun before => ?_⟩
    simp only [bind, EStateM.bind, hrendering]
    rfl
  | ok rendering =>
    obtain ⟨outcome, d', printed', more, -, hdeliver⟩ :=
      request.exists_delivers {} .debug w.folder w.printed rendering
    refine ⟨outcome, d', printed', records ++ more, fun before => ?_⟩
    simp only [bind, EStateM.bind, hrendering, Job.finished]
    rw [hdeliver, List.append_assoc]

end Request

end Files

/-- The way in which line ends are written never changes the meaning of a text. With a carriage
    return before each line feed, the tokens of a text given inline have the same kinds, literals,
    lines and columns, and it is parsed to the same trees with the same places, or refused with the
    same message. And source files that hold one text without carriage returns, with its line ends
    written as line feeds, as carriage returns or as both, make runs with the same settings end in
    the same way: they print the same, write the same, and fail for the same reason. -/
theorem line_ends_keep_reading (text : String) :
    (∃ tokens others, let doubled := String.ofList (Text.withLineEnds ['\r', '\n'] text.toList)
      tokensToEnd text = .ok tokens ∧ tokensToEnd doubled = .ok others ∧
      tokens.map Token.shown = others.map Token.shown ∧
      (parse text).mapError Fault.message = (parse doubled).mapError Fault.message) ∧
    ('\r' ∉ text.toList → ∀ (request : Request) (w : Workspace),
      ∃ outcome folder printed records, ∀ source, w.folder.Holds source text.toList →
        { request with source, inline := false }.run w =
          Request.ended outcome
            ⟨folder, printed, w.records ++ Request.begun source :: records⟩) := by
  constructor
  · obtain ⟨tokens, others, htokens, hothers, hshown⟩ := map_shown_eq text
    exact ⟨tokens, others, htokens, hothers, hshown,
      parse_mapError_eq_of_map_shown htokens hothers hshown⟩
  · intro htext request w
    obtain ⟨outcome, folder, printed, records, hended⟩ := request.exists_ended text.toList w
    refine ⟨outcome, folder, printed, records, fun source hholds => ?_⟩
    have hread := @Request.text_of_holds { request with source, inline := false } w source
      text.toList rfl rfl hholds htext
    rw [Request.run_of_text hread]
    refine (hended _).trans ?_
    rw [List.append_assoc, List.singleton_append]

/-- The text `1` and a line end, in one file for each spelling of the line end. -/
theorem line_ends_keep_reading_of_three_files :
    let w : Workspace := { folder := { files :=
      [(["a.ringo"], [49, 10]), (["b.ringo"], [49, 13, 10]), (["c.ringo"], [49, 13])] } }
    '\r' ∉ "1\n".toList ∧ w.folder.Holds "a.ringo" "1\n".toList ∧
      w.folder.Holds "b.ringo" "1\n".toList ∧ w.folder.Holds "c.ringo" "1\n".toList ∧
      ∃ outcome folder printed records, ∀ source ∈ ["a.ringo", "b.ringo", "c.ringo"],
        ({ source, tokens := true } : Request).run w =
          Request.ended outcome
            ⟨folder, printed, w.records ++ Request.begun source :: records⟩ := by
  intro w
  have hreturn : '\r' ∉ "1\n".toList := by decide +kernel
  have ha : w.folder.Holds "a.ringo" "1\n".toList :=
    ⟨by decide +kernel, ['\n'], by decide, by decide +kernel⟩
  have hb : w.folder.Holds "b.ringo" "1\n".toList :=
    ⟨by decide +kernel, ['\r', '\n'], by decide, by decide +kernel⟩
  have hc : w.folder.Holds "c.ringo" "1\n".toList :=
    ⟨by decide +kernel, ['\r'], by decide, by decide +kernel⟩
  obtain ⟨outcome, folder, printed, records, hended⟩ :=
    (line_ends_keep_reading "1\n").2 hreturn { source := "", tokens := true } w
  refine ⟨hreturn, ha, hb, hc, outcome, folder, printed, records, ?_⟩
  simp only [List.forall_mem_cons, List.not_mem_nil, false_implies, implies_true, and_true]
  exact ⟨hended _ ha, hended _ hb, hended _ hc⟩

end LetArith
