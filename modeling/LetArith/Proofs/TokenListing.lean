import LetArith.Proofs.Json.Numerals
import LetArith.Proofs.Matching

namespace LetArith

namespace Text

/-- The characters that end a row of a text. -/
def rowEnds : List Char :=
  ['\n', '\r', '\x0b', '\x0c', '\x1c', '\x1d', '\x1e', '\x85', '\u2028', '\u2029']

/-- The rows of a text, without the characters that end them. A last row may lack its end. -/
def rows : List Char → List (List Char)
  | [] => []
  | c :: rest =>
    if c ∈ rowEnds then [] :: rows rest
    else
      match rows rest with
      | [] => [[c]]
      | row :: others => (c :: row) :: others

/-- A text in which no row ends. -/
def Unbroken (text : List Char) : Prop := ∀ c ∈ text, c ∉ rowEnds

instance : DecidablePred Unbroken := fun text => List.decidableBAll _ text

theorem Unbroken.append {text more : List Char} (htext : Unbroken text) (hmore : Unbroken more) :
    Unbroken (text ++ more) :=
  List.forall_mem_append.2 ⟨htext, hmore⟩

private theorem isBlank_of_mem_rowEnds : ∀ c ∈ rowEnds, isBlank c :=
  List.all_eq_true.1 (by decide +kernel)

theorem Solid.unbroken {text : List Char} (hsolid : Solid text) : Unbroken text := by
  intro c hc hend
  have hblank := isBlank_of_mem_rowEnds c hend
  rw [hsolid c hc] at hblank
  cases hblank

theorem unbroken_of_numeric {text : List Char} (htext : ∀ c ∈ text, Json.Grammar.Numeric c) :
    Unbroken text := by
  intro c hc hend
  have hdigits : ∀ c ∈ rowEnds, !c.isDigit := List.all_eq_true.1 (by decide)
  have hmarks : Unbroken ['-', '+', '.', 'e', 'E'] := by decide
  rcases htext c hc with hdigit | hmark
  · simpa [hdigit] using hdigits c hend
  · exact hmarks c hmark hend

private theorem rows_append_end {row : List Char} (hrow : Unbroken row) {c : Char}
    (hc : c ∈ rowEnds)
    (rest : List Char) : rows (row ++ c :: rest) = row :: rows rest := by
  induction row with
  | nil => rw [List.nil_append, rows, if_pos hc]
  | cons first row ih =>
    obtain ⟨hfirst, hrow⟩ := List.forall_mem_cons.1 hrow
    rw [List.cons_append, rows, if_neg hfirst, ih hrow]

private theorem rows_of_unbroken {row : List Char} (hrow : Unbroken row) (hne : row ≠ []) :
    rows row = [row] := by
  induction row with
  | nil => exact absurd rfl hne
  | cons first row ih =>
    obtain ⟨hfirst, hrow⟩ := List.forall_mem_cons.1 hrow
    rw [rows, if_neg hfirst]
    cases row with
    | nil => rfl
    | cons next row => rw [ih hrow (List.cons_ne_nil _ _)]

theorem countP_of_unbroken {row : List Char} (hrow : Unbroken row) :
    row.countP (· ∈ rowEnds) = 0 :=
  List.countP_eq_zero.2 fun c hc => by simpa using hrow c hc

/-- A text that fills a row: it is not empty, and no row ends in it. -/
structure FillsRow (text : List Char) : Prop where
  unbroken : Unbroken text
  ne_nil : text ≠ []

/-- Texts that are written one to a row are the rows of what is written. -/
theorem rows_intercalate {texts : List (List Char)} (htexts : ∀ text ∈ texts, FillsRow text) :
    rows (['\n'].intercalate texts) = texts ∧
      (['\n'].intercalate texts).countP (· ∈ rowEnds) = texts.length - 1 := by
  induction texts with
  | nil => exact ⟨rfl, rfl⟩
  | cons text others ih =>
    obtain ⟨htext, hothers⟩ := List.forall_mem_cons.1 htexts
    cases others with
    | nil =>
      rw [List.intercalate_singleton]
      exact ⟨rows_of_unbroken htext.unbroken htext.ne_nil, countP_of_unbroken htext.unbroken⟩
    | cons next others =>
      obtain ⟨hrows, hcount⟩ := ih hothers
      rw [List.intercalate_cons_cons, List.append_assoc, List.singleton_append]
      constructor
      · rw [rows_append_end htext.unbroken (by decide), hrows]
      · rw [List.countP_append, countP_of_unbroken htext.unbroken,
          List.countP_cons_of_pos (by decide), hcount]
        simp

section Listings

variable {α : Type} {entry : α → String} {members others : List α}

/-- A listing of one entry to a line has a row for every member. -/
theorem rows_listing (hmembers : ∀ member ∈ members, FillsRow (entry member).toList) :
    rows ("\n".intercalate (members.map entry)).toList =
        members.map (fun member => (entry member).toList) ∧
      ("\n".intercalate (members.map entry)).toList.countP (· ∈ rowEnds) = members.length - 1 := by
  have hrows := rows_intercalate (List.forall_mem_map.2 hmembers)
  rw [List.length_map] at hrows
  rwa [String.toList_intercalate, List.map_map]

/-- Listings of one entry to a line are the same only if their entries are. -/
theorem map_eq_of_listing_eq (hmembers : ∀ member ∈ members, FillsRow (entry member).toList)
    (hothers : ∀ member ∈ others, FillsRow (entry member).toList)
    (h : "\n".intercalate (members.map entry) = "\n".intercalate (others.map entry)) :
    members.map entry = others.map entry := by
  have hrows := (rows_listing hmembers).1
  rw [h, (rows_listing hothers).1, eq_comm, map_eq_map_iff_forall₂] at hrows
  exact map_eq_map_iff_forall₂.2 (hrows.imp fun _ _ hentry => String.toList_inj.1 hentry)

end Listings

/-- What comes before the first mark of its kind, and what comes behind it. -/
theorem append_mark_inj {mark : Char} {before other behind more : List Char}
    (hbefore : mark ∉ before) (hother : mark ∉ other)
    (h : before ++ mark :: behind = other ++ mark :: more) : before = other ∧ behind = more := by
  induction before generalizing other with
  | nil =>
    cases other with
    | nil => exact ⟨rfl, (List.cons.inj h).2⟩
    | cons c other => exact absurd (List.cons.inj h).1 (List.ne_of_not_mem_cons hother)
  | cons c before ih =>
    obtain ⟨hc, hbefore⟩ := List.ne_and_not_mem_of_not_mem_cons hbefore
    cases other with
    | nil => exact absurd (List.cons.inj h).1.symm hc
    | cons d other =>
      obtain ⟨rfl, hrest⟩ := List.cons.inj h
      obtain ⟨rfl, hbehind⟩ := ih hbefore (List.not_mem_of_not_mem_cons hother) hrest
      exact ⟨rfl, hbehind⟩

end Text

theorem Json.toString_int_injective {m n : Int} (h : toString m = toString n) : m = n := by
  obtain ⟨-, -, hm⟩ := wordDenotes_toString m
  obtain ⟨-, -, hn⟩ := wordDenotes_toString n
  rw [h, hn] at hm
  exact (Json.integer.inj (Option.some.inj hm)).symm

theorem Kind.name_injective {kind other : Kind} (h : kind.name = other.name) : kind = other := by
  have hnamed (kind : Kind) : all.find? (·.name = kind.name) = some kind := by
    cases kind <;> decide
  exact Option.some.inj ((hnamed kind).symm.trans (h ▸ hnamed other))

namespace Token

/-- What a row of a token listing tells about a token. -/
def entry (token : Token) : Kind × String × Int :=
  (token.kind, token.literal, token.start.position)

theorem toList_line (token : Token) :
    token.line.toList = token.kind.name.toList ++ ':' :: ' ' :: '\'' :: (token.literal.toList ++
      '\'' :: ' ' :: '@' :: (toString token.start.position).toList) := by
  simp [line]

/-- Whatever a literal holds, the row of a token has its kind before the first colon and its offset
    behind the last at sign. -/
theorem line_eq_iff {token other : Token} : token.line = other.line ↔ token.entry = other.entry := by
  constructor
  · intro h
    have hcolon (kind : Kind) : ':' ∉ kind.name.toList := by cases kind <;> decide
    have hat (n : Int) : '@' ∉ (toString n).toList.reverse := by
      intro hmem
      have hnumeric := Json.Grammar.within_number _ (Json.toString_mem_number n) '@'
        (List.mem_reverse.1 hmem)
      exact absurd hnumeric (by unfold Json.Grammar.Numeric; decide)
    have hlist := congrArg String.toList h
    rw [toList_line, toList_line] at hlist
    obtain ⟨hkind, hrest⟩ := Text.append_mark_inj (hcolon _) (hcolon _) hlist
    have hreverse := congrArg List.reverse hrest
    simp only [List.reverse_cons, List.reverse_append, List.append_assoc, List.singleton_append]
      at hreverse
    obtain ⟨hposition, hliteral⟩ := Text.append_mark_inj (hat _) (hat _) hreverse
    have hliteral : token.literal.toList = other.literal.toList := by simpa using hliteral
    have hposition := String.toList_inj.1 (List.reverse_injective hposition)
    refine Prod.ext (Kind.name_injective (String.toList_inj.1 hkind)) (Prod.ext ?_ ?_)
    · exact String.toList_inj.1 hliteral
    · exact Json.toString_int_injective hposition
  · intro h
    obtain ⟨hkind, h⟩ := Prod.mk.inj h
    obtain ⟨hliteral, hposition⟩ := Prod.mk.inj h
    rw [line, line, hkind, hliteral, hposition]

/-- A token fills a row of a listing, unless a row ends in its literal. -/
theorem fillsRow_line {token : Token} (hliteral : Text.Unbroken token.literal.toList) :
    Text.FillsRow token.line.toList := by
  have hname (kind : Kind) : Text.Unbroken kind.name.toList := by cases kind <;> decide
  have hposition := Json.Grammar.within_number _ (Json.toString_mem_number token.start.position)
  have hopening : Text.Unbroken [':', ' ', '\''] := by decide
  have hclosing : Text.Unbroken ['\'', ' ', '@'] := by decide
  rw [toList_line]
  constructor
  · exact (hname _).append (hopening.append
      (hliteral.append (hclosing.append (Text.unbroken_of_numeric hposition))))
  · exact List.append_ne_nil_of_right_ne_nil _ (List.cons_ne_nil _ _)

end Token

/-- No literal of a text holds a blank. -/
theorem Piece.solid_literal (cursor : Cursor) (text : List Char) :
    ∀ token ∈ tokens cursor (all text), Text.Solid token.literal.toList := by
  intro token htoken
  obtain ⟨piece, hpiece, heq⟩ := exists_word_eq htoken
  have hsolid := Lexeme.solid_of_mem_lexemes (text_mem_lexemes text piece hpiece)
  rw [← (Prod.mk.inj heq).2, Lexeme.literal, String.toList_ofList]
  intro c hc
  split at hc
  · exact hsolid c (List.mem_of_mem_filter hc)
  · exact hsolid c hc

theorem Token.lines_eq_iff {tokens others : List Token}
    (htokens : ∀ token ∈ tokens, Text.FillsRow token.line.toList)
    (hothers : ∀ token ∈ others, Text.FillsRow token.line.toList) :
    lines tokens = lines others ↔ tokens.map entry = others.map entry := by
  constructor
  · intro h
    have hlines := map_eq_map_iff_forall₂.1 (Text.map_eq_of_listing_eq htokens hothers h)
    exact map_eq_map_iff_forall₂.2 (hlines.imp fun _ _ hline => line_eq_iff.1 hline)
  · intro h
    rw [map_eq_map_iff_forall₂] at h
    rw [lines, lines, map_eq_map_iff_forall₂.2 (h.imp fun _ _ hentry => line_eq_iff.2 hentry)]

/-- The listing of the tokens of a text is empty or has one row to a token, whichever characters end
    a row, and no literal holds one of them. Two texts have one listing only if their tokens agree in
    kind, literal and offset. -/
theorem token_listing_faithful (text other : String) :
    ∃ tokens others, tokenize text = .ok tokens ∧ tokenize other = .ok others ∧
      Text.rows (Token.lines tokens).toList = tokens.map (fun token => token.line.toList) ∧
      (Token.lines tokens).toList.countP (· ∈ Text.rowEnds) = tokens.length - 1 ∧
      (Token.lines tokens = "" ↔ tokens = []) ∧
      (∀ token ∈ tokens, ∀ c ∈ token.literal.toList, c ∉ Text.rowEnds) ∧
      (Token.lines tokens = Token.lines others ↔
        tokens.map Token.entry = others.map Token.entry) := by
  have hunbroken (text : String) :
      ∀ token ∈ Piece.tokens {} (Piece.all text.toList), Text.Unbroken token.literal.toList :=
    fun token htoken => (Piece.solid_literal {} text.toList token htoken).unbroken
  have hlines (text : String) :
      ∀ token ∈ Piece.tokens {} (Piece.all text.toList), Text.FillsRow token.line.toList :=
    fun token htoken => Token.fillsRow_line (hunbroken text token htoken)
  obtain ⟨hrows, hcount⟩ := Text.rows_listing (hlines text)
  refine ⟨_, _, (tokens_eq text).1, (tokens_eq other).1, hrows, hcount, ?_, hunbroken text,
    Token.lines_eq_iff (hlines text) (hlines other)⟩
  constructor
  · intro hempty
    rw [Token.lines] at hempty
    rw [hempty] at hrows
    exact List.map_eq_nil_iff.1 hrows.symm
  · intro hnone
    rw [hnone]
    rfl

end LetArith
