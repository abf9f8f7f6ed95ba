import LetArith.Proofs.Digits
import LetArith.Proofs.Matching

namespace LetArith

namespace Text

/-- A decimal digit written as the ASCII digit of its value, and any other character as it is. -/
def asciiDigit (c : Char) : Char := if isDigit c then (digitValue c).digitChar else c

/-- A text with all decimal digits written as ASCII digits. -/
def withAsciiDigits (text : List Char) : List Char := text.map asciiDigit

/-- A text with all decimal digits written as ASCII digits. -/
def transcribe (text : String) : String := String.ofList (withAsciiDigits text.toList)

private theorem digitValue_lt (c : Char) : digitValue c < 10 := by
  unfold digitValue
  split
  · exact Nat.mod_lt _ (by decide)
  · decide

private theorem asciiDigit_of_isDigit {c : Char} (hc : isDigit c) :
    (asciiDigit c).isDigit ∧ digitValue (asciiDigit c) = digitValue c := by
  have hdigits : ∀ value < 10,
      value.digitChar.isDigit ∧ value.digitChar.toNat - '0'.toNat = value := by decide
  obtain ⟨hascii, hvalue⟩ := hdigits (digitValue c) (digitValue_lt c)
  rw [asciiDigit, if_pos hc, digitValue_of_isDigit hascii]
  exact ⟨hascii, hvalue⟩

theorem asciiDigit_of_isDigit_eq_false {c : Char} (hc : isDigit c = false) : asciiDigit c = c := by
  rw [asciiDigit, hc]
  rfl

theorem isDigit_asciiDigit (c : Char) : isDigit (asciiDigit c) = isDigit c := by
  cases hc : isDigit c with
  | true => exact isDigit_of_ascii (asciiDigit_of_isDigit hc).1
  | false => rw [asciiDigit_of_isDigit_eq_false hc, hc]

theorem digitValue_asciiDigit (c : Char) : digitValue (asciiDigit c) = digitValue c := by
  cases hc : isDigit c with
  | true => exact (asciiDigit_of_isDigit hc).2
  | false => rw [asciiDigit_of_isDigit_eq_false hc]

/-- Writing a digit anew makes no other character of it and no digit of another character. -/
theorem asciiDigit_eq_iff {c other : Char} (hother : isDigit other = false) :
    asciiDigit c = other ↔ c = other := by
  cases hc : isDigit c with
  | true =>
    have hascii := isDigit_asciiDigit c
    refine iff_of_false ?_ ?_
    · rintro rfl
      rw [hc, hother] at hascii
      cases hascii
    · rintro rfl
      rw [hc] at hother
      cases hother
  | false => rw [asciiDigit_of_isDigit_eq_false hc]

theorem withAsciiDigits_of_forall {text : List Char} (h : ∀ c ∈ text, isDigit c = false) :
    withAsciiDigits text = text :=
  (List.map_congr_left fun c hc => asciiDigit_of_isDigit_eq_false (h c hc)).trans (List.map_id text)

theorem withAsciiDigits_append (before behind : List Char) :
    withAsciiDigits (before ++ behind) = withAsciiDigits before ++ withAsciiDigits behind :=
  List.map_append

theorem digitsValue_withAsciiDigits (digits : List Char) :
    digitsValue (withAsciiDigits digits) = digitsValue digits := by
  rw [digitsValue, withAsciiDigits, List.foldl_map, digitsValue]
  simp only [digitValue_asciiDigit]

/-- A class to which no digit belongs has the same characters as before. -/
theorem class_asciiDigit {p : Char → Bool} (hp : ∀ c, isDigit c → p c = false) (c : Char) :
    p (asciiDigit c) = p c := by
  cases hc : isDigit c with
  | true => rw [hp c hc, hp _ ((isDigit_asciiDigit c).trans hc)]
  | false => rw [asciiDigit_of_isDigit_eq_false hc]

/-- A word has no digits, and no digit becomes a letter. -/
theorem takeWhile_withAsciiDigits (text : List Char) :
    (withAsciiDigits text).takeWhile isLetter = text.takeWhile isLetter := by
  induction text with
  | nil => rfl
  | cons c rest ih =>
    change (asciiDigit c :: withAsciiDigits rest).takeWhile isLetter = _
    rw [List.takeWhile_cons, List.takeWhile_cons,
      class_asciiDigit (fun _ => isLetter_eq_false_of_isDigit), ih]
    split
    · next hletter => rw [asciiDigit_of_isDigit_eq_false (isDigit_eq_false_of_isLetter hletter)]
    · rfl

/-- A mark that is no digit is told from other characters as before. -/
theorem bne_comp_asciiDigit {mark : Char} (hmark : isDigit mark = false) :
    (· != mark) ∘ asciiDigit = (· != mark) := by
  funext c
  simp [bne, asciiDigit_eq_iff hmark]

theorem Solid.withAsciiDigits {text : List Char} (hsolid : Solid text) :
    Solid (withAsciiDigits text) :=
  List.forall_mem_map.2 fun c hc =>
    (class_asciiDigit (fun _ => isBlank_eq_false_of_isDigit) c).trans (hsolid c hc)

theorem Blank.withAsciiDigits_eq {text : List Char} (hblank : Blank text) :
    withAsciiDigits text = text :=
  withAsciiDigits_of_forall fun c hc => isDigit_eq_false_of_isBlank (hblank c hc)

end Text

theorem Cursor.walk_withAsciiDigits (cursor : Cursor) (text : List Char) :
    cursor.walk (Text.withAsciiDigits text) = cursor.walk text := by
  have hfeed : Text.isDigit '\n' = false := by decide +kernel
  have hstep (cursor : Cursor) (c : Char) : cursor.step (Text.asciiDigit c) = cursor.step c := by
    simp only [step, Text.asciiDigit_eq_iff hfeed]
  rw [walk, Text.withAsciiDigits, List.foldl_map, walk]
  simp only [hstep]

namespace Lexeme

/-- A lexeme with all decimal digits written as ASCII digits. -/
def withAsciiDigits (lexeme : Lexeme) : Lexeme := ⟨lexeme.kind, Text.withAsciiDigits lexeme.text⟩

theorem beginsWithDigit_withAsciiDigits (text : List Char) :
    beginsWithDigit (Text.withAsciiDigits text) = beginsWithDigit text := by
  cases text with
  | nil => rfl
  | cons c rest => exact Text.isDigit_asciiDigit c

theorem numeralAfter_withAsciiDigits (digitBefore pointBefore : Bool) (text : List Char) :
    numeralAfter digitBefore pointBefore (Text.withAsciiDigits text) =
      Text.withAsciiDigits (numeralAfter digitBefore pointBefore text) := by
  induction text generalizing digitBefore pointBefore with
  | nil => rfl
  | cons c rest ih =>
    have hseparator := (classes_of_mark (.inl rfl : digitSeparator = _ ∨ _)).2.2
    have hpoint := (classes_of_mark (.inr rfl : _ ∨ decimalPoint = _)).2.2
    have hcons : Text.withAsciiDigits (c :: rest) =
        Text.asciiDigit c :: Text.withAsciiDigits rest := rfl
    simp only [hcons, numeralAfter, Text.isDigit_asciiDigit, Text.asciiDigit_eq_iff hseparator,
      Text.asciiDigit_eq_iff hpoint, beginsWithDigit_withAsciiDigits, ih]
    split
    · rfl
    · split
      · rfl
      · split <;> rfl

theorem first?_withAsciiDigits (text : List Char) :
    first? (Text.withAsciiDigits text) = (first? text).map withAsciiDigits := by
  cases text with
  | nil => rfl
  | cons c rest =>
    cases hc : Text.isDigit c with
    | true =>
      have hascii : Text.isDigit (Text.asciiDigit c) := (Text.isDigit_asciiDigit c).trans hc
      have hnumeral := numeralAfter_withAsciiDigits false false (c :: rest)
      rw [first?_of_isDigit hc, Option.map_some, withAsciiDigits, numeral, ← hnumeral]
      exact first?_of_isDigit hascii _
    | false =>
      have hkept := Text.asciiDigit_of_isDigit_eq_false hc
      have hone : Text.withAsciiDigits [c] = [c] := congrArg (· :: []) hkept
      have hcons : c :: Text.withAsciiDigits rest = Text.withAsciiDigits (c :: rest) :=
        congrArg (· :: Text.withAsciiDigits rest) hkept.symm
      have hword : ∀ d ∈ (c :: rest).takeWhile Text.isLetter, Text.isDigit d = false :=
        fun d hd => Text.isDigit_eq_false_of_isLetter (List.mem_takeWhile_imp hd)
      rw [← hcons, first?, first?, hc, hcons, Text.takeWhile_withAsciiDigits]
      split
      · rw [Option.map_some, withAsciiDigits, hone]
      · split
        · rw [Option.map_some, withAsciiDigits, Text.withAsciiDigits_of_forall hword]
        · rw [if_neg Bool.false_ne_true, if_neg Bool.false_ne_true, Option.map_some,
            withAsciiDigits, hone]

end Lexeme

namespace Piece

/-- A piece with all decimal digits written as ASCII digits. -/
def withAsciiDigits (piece : Piece) : Piece :=
  ⟨Text.withAsciiDigits piece.blanks, piece.lexeme.withAsciiDigits⟩

theorem text_withAsciiDigits (piece : Piece) :
    piece.withAsciiDigits.text = Text.withAsciiDigits piece.text :=
  (Text.withAsciiDigits_append _ _).symm

/-- Writing the digits of a text anew writes those of its lexemes anew. -/
theorem all_withAsciiDigits (text : List Char) :
    all (Text.withAsciiDigits text) = (all text).map withAsciiDigits := by
  induction text using Piece.induction with
  | blank text hblank =>
    rw [hblank.withAsciiDigits_eq, all_of_blank hblank]
    rfl
  | piece blanks lexeme rest hblanks hfirst hsolid ih =>
    have hfirst' := Lexeme.first?_withAsciiDigits (lexeme.text ++ rest)
    rw [hfirst, Text.withAsciiDigits_append] at hfirst'
    have hsolid' : Text.Solid lexeme.withAsciiDigits.text := hsolid.withAsciiDigits
    have hall := all_append hblanks hfirst' hsolid'
    rw [ih] at hall
    rw [Text.withAsciiDigits_append, Text.withAsciiDigits_append, hblanks.withAsciiDigits_eq,
      all_append hblanks hfirst hsolid, List.map_cons, withAsciiDigits, hblanks.withAsciiDigits_eq]
    exact hall

end Piece

/-- A token with all decimal digits of its literal written as ASCII digits. -/
def Token.withAsciiDigits (token : Token) : Token :=
  { token with literal := Text.transcribe token.literal }

theorem Lexeme.literal_withAsciiDigits (lexeme : Lexeme) :
    lexeme.withAsciiDigits.literal = Text.transcribe lexeme.literal := by
  have hseparator : Text.isDigit digitSeparator = false := by decide +kernel
  have hfilter : withoutSeparators (Text.withAsciiDigits lexeme.text) =
      Text.withAsciiDigits (withoutSeparators lexeme.text) := by
    rw [withoutSeparators, Text.withAsciiDigits, List.filter_map,
      Text.bne_comp_asciiDigit hseparator]
    rfl
  rw [literal, literal, Text.transcribe, String.toList_ofList]
  change String.ofList (if lexeme.kind = .number then
    withoutSeparators (Text.withAsciiDigits lexeme.text) else _) = _
  rw [hfilter]
  split <;> rfl

/-- The tokens begin where they began. -/
theorem Piece.tokens_withAsciiDigits (cursor : Cursor) (pieces : List Piece) :
    tokens cursor (pieces.map withAsciiDigits) =
      (tokens cursor pieces).map Token.withAsciiDigits := by
  induction pieces generalizing cursor with
  | nil => rfl
  | cons piece pieces ih =>
    rw [List.map_cons, tokens, tokens, List.map_cons, text_withAsciiDigits,
      Cursor.walk_withAsciiDigits, ih, withAsciiDigits, Cursor.walk_withAsciiDigits,
      piece.lexeme.literal_withAsciiDigits]
    rfl

/-- A number has the value that it had. -/
theorem Binary64.ofNumeral_withAsciiDigits (negative : Bool) (numeral : List Char) (exponent : Int) :
    ofNumeral negative (Text.withAsciiDigits numeral) exponent =
      ofNumeral negative numeral exponent := by
  have hpoint : Text.isDigit '.' = false := by decide +kernel
  have hwhole : (Text.withAsciiDigits numeral).takeWhile (· != '.') =
      Text.withAsciiDigits (numeral.takeWhile (· != '.')) := by
    rw [Text.withAsciiDigits, List.takeWhile_map, Text.bne_comp_asciiDigit hpoint]
    rfl
  have hfraction : ((Text.withAsciiDigits numeral).dropWhile (· != '.')).drop 1 =
      Text.withAsciiDigits ((numeral.dropWhile (· != '.')).drop 1) := by
    rw [Text.withAsciiDigits, List.dropWhile_map, Text.bne_comp_asciiDigit hpoint, ← List.map_drop]
    rfl
  simp only [ofNumeral, hwhole, hfraction, ← Text.withAsciiDigits_append,
    Text.digitsValue_withAsciiDigits]
  rw [Text.withAsciiDigits, List.length_map]

/-- A token of a text means the same with its digits written anew: there are none in a name. -/
theorem Token.match_withAsciiDigits {cursor : Cursor} {text : List Char} {token : Token}
    (htoken : token ∈ Piece.tokens cursor (Piece.all text)) :
    token.Match Eq token.withAsciiDigits := by
  refine ⟨rfl, fun hkind => ?_, fun _ => ?_, rfl⟩
  · obtain ⟨piece, hpiece, hword⟩ := Piece.exists_word_eq htoken
    obtain ⟨hsame, hliteral⟩ := Prod.mk.inj hword
    have hmem := Piece.text_mem_lexemes text piece hpiece
    have hnumber : piece.lexeme.kind ≠ .number := by simp [hsame, hkind]
    rw [hsame, hkind] at hmem
    have hname : ∀ c ∈ piece.lexeme.text, Text.isDigit c = false :=
      fun c hc => Text.isDigit_eq_false_of_isLetter (hmem.2.1 c hc)
    change token.literal = Text.transcribe token.literal
    rw [← hliteral, Lexeme.literal, if_neg hnumber, Text.transcribe, String.toList_ofList,
      Text.withAsciiDigits_of_forall hname]
  · change _ = Binary64.ofNumeral false (Text.transcribe token.literal).toList 0
    rw [Text.transcribe, String.toList_ofList, Binary64.ofNumeral_withAsciiDigits, Token.value]

/-- Digits may be written in any script. A text in which each of them is written as the ASCII digit of
    its value has tokens of the same kinds at the same places, whose literals are those from before
    with the digits written anew. It is parsed to the same program with the same places, or refused at
    the same token for the same reason. -/
theorem ascii_digits_keep_reading (text : String) :
    ∃ tokens, tokenize text = .ok tokens ∧
      tokenize (Text.transcribe text) = .ok (tokens.map Token.withAsciiDigits) ∧
      ((∃ nodes, parse text = .ok nodes ∧ parse (Text.transcribe text) = .ok nodes ∧
          nodes == nodes) ∨
        ∃ error error' wrong, parse text = .error (.syntactic error) ∧
          parse (Text.transcribe text) = .error (.syntactic error') ∧
          error.token = some wrong ∧ error'.token = some wrong.withAsciiDigits ∧
          error'.kind = error.kind ∧ error'.expected = error.expected) := by
  obtain ⟨htokens, htokensToEnd⟩ := tokens_eq text
  obtain ⟨hothers, hothersToEnd⟩ := tokens_eq (Text.transcribe text)
  have hcharacters : (Text.transcribe text).toList = Text.withAsciiDigits text.toList :=
    String.toList_ofList
  rw [hcharacters, Piece.all_withAsciiDigits, Piece.tokens_withAsciiDigits] at hothers hothersToEnd
  rw [Cursor.walk_withAsciiDigits] at hothersToEnd
  refine ⟨_, htokens, hothers, ?_⟩
  generalize hrow : Piece.tokens {} (Piece.all text.toList) ++ [_] = row at htokensToEnd
  have hothersToEnd : tokensToEnd (Text.transcribe text) = .ok (row.map Token.withAsciiDigits) := by
    rw [hothersToEnd, ← hrow, List.map_append]
    rfl
  have hmatch : List.Forall₂ (Token.Match Eq) row (row.map Token.withAsciiDigits) := by
    rw [List.forall₂_map_right_iff, List.forall₂_same, ← hrow, List.forall_mem_append]
    refine ⟨fun token htoken => Token.match_withAsciiDigits htoken, ?_⟩
    exact List.forall_mem_singleton.2 ⟨rfl, by simp, by simp, rfl⟩
  rcases parse_match htokensToEnd hothersToEnd hmatch with
    ⟨nodes, nodes', hparse, hparse', hnodes⟩ |
    ⟨previous, i, wrong, wrong', hwrong, hwrong', -, hparse, hparse'⟩
  · obtain rfl := Node.eq_of_match hnodes
    exact .inl ⟨nodes, hparse, hparse', beq_self_of_parse hparse⟩
  · rw [List.getElem?_map, hwrong] at hwrong'
    obtain rfl := Option.some.inj hwrong'
    exact .inr ⟨_, _, wrong, hparse, hparse', rfl, rfl, rfl, rfl⟩

/-- Digits of two scripts in one numeral. -/
example : Text.transcribe "let x = 1\u0662_\u096B.0" = "let x = 12_5.0" := by decide +kernel

end LetArith
