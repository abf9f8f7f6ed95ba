import LetArith.Proofs.Places
import LetArith.Proofs.Respacing

namespace LetArith

open Lexeme

namespace Text

/-- Whether a character with a text behind it is a separator between two digits, where the first
    argument says whether a digit comes directly before it. -/
def separates (digitBefore : Bool) (c : Char) (rest : List Char) : Bool :=
  c = digitSeparator && digitBefore && beginsWithDigit rest

/-- Which characters of a text are separators between two digits. The first argument says whether a
    digit comes directly before the text. -/
def grouping (digitBefore : Bool) : List Char → List Bool
  | [] => []
  | c :: rest => separates digitBefore c rest :: grouping (isDigit c) rest

/-- A text without the separators between two digits. -/
def ungroup (digitBefore : Bool) (text : List Char) : List Char :=
  ((text.zip (grouping digitBefore text)).filter fun marked => !marked.2).map Prod.fst

/-- How many of the first so many characters of a text are separators between two digits. -/
def groupedBefore (text : List Char) (n : Nat) : Nat := ((grouping false text).take n).count true

example :
    ungroup false "let x_1 = 1_2__3_.4_5 + _6".toList = "let x_1 = 12__3_.45 + _6".toList := by
  decide +kernel

theorem ungroup_cons (digitBefore : Bool) (c : Char) (rest : List Char) :
    ungroup digitBefore (c :: rest) =
      if separates digitBefore c rest then ungroup (isDigit c) rest
      else c :: ungroup (isDigit c) rest := by
  rw [ungroup, grouping, List.zip_cons_cons, List.filter_cons]
  cases separates digitBefore c rest <;> simp [ungroup]

private theorem separates_of_ne {c : Char} (hc : c ≠ digitSeparator) (digitBefore : Bool)
    (rest : List Char) : separates digitBefore c rest = false := by
  simp [separates, hc]

@[simp] theorem separates_false (c : Char) (rest : List Char) : separates false c rest = false := by
  simp [separates]

/-- Behind anything but a digit the first character stays. -/
theorem head?_ungroup (text : List Char) : (ungroup false text).head? = text.head? := by
  cases text with
  | nil => rfl
  | cons c rest => simp [ungroup_cons]

theorem beginsWithDigit_ungroup (text : List Char) :
    beginsWithDigit (ungroup false text) = beginsWithDigit text := by
  cases text with
  | nil => rfl
  | cons c rest => simp [ungroup_cons, beginsWithDigit]

private theorem grouping_append_of_isDigit_eq_false {front : List Char}
    (h : ∀ c ∈ front, isDigit c = false) (rest : List Char) :
    grouping false (front ++ rest) = front.map (fun _ => false) ++ grouping false rest := by
  induction front with
  | nil => rfl
  | cons c front ih =>
    obtain ⟨hc, hfront⟩ := List.forall_mem_cons.1 h
    rw [List.cons_append, grouping, separates_false, hc, ih hfront, List.map_cons, List.cons_append]

private theorem grouping_append_of_blank {blanks : List Char} (hblank : Blank blanks)
    (rest : List Char) :
    grouping false (blanks ++ rest) = blanks.map (fun _ => false) ++ grouping false rest :=
  grouping_append_of_isDigit_eq_false (fun c hc => isDigit_eq_false_of_isBlank (hblank c hc)) rest

private theorem map_fst_filter_zip_map (text : List Char) (marks : Char → Bool) :
    ((text.zip (text.map marks)).filter fun marked => !marked.2).map Prod.fst =
      text.filter fun c => !marks c := by
  induction text with
  | nil => rfl
  | cons c text ih =>
    rw [List.map_cons, List.zip_cons_cons, List.filter_cons, List.filter_cons]
    cases marks c <;> simp [ih]

private theorem length_filter_add_count (text : List Char) (marks : Char → Bool) :
    (text.filter fun c => !marks c).length + (text.map marks).count true = text.length := by
  induction text with
  | nil => rfl
  | cons c text ih =>
    rw [List.map_cons, List.filter_cons, List.count_cons, List.length_cons]
    cases marks c <;> simp <;> omega

theorem ungroup_append {front rest : List Char} {marks : Char → Bool}
    (h : grouping false (front ++ rest) = front.map marks ++ grouping false rest) :
    ungroup false (front ++ rest) = front.filter (fun c => !marks c) ++ ungroup false rest := by
  rw [ungroup, h, List.zip_append (by simp), List.filter_append, List.map_append,
    map_fst_filter_zip_map, ← ungroup]

end Text

namespace Lexeme

private theorem ne_digitSeparator_of_point {c : Char} {pointBefore : Bool}
    (hpoint : (c = decimalPoint && !pointBefore) = true) : c ≠ digitSeparator := by
  simp only [Bool.and_eq_true, decide_eq_true_eq] at hpoint
  rw [hpoint.1]
  decide

/-- The separators between two digits that stand in a numeral are all of its separators. -/
theorem grouping_numeralAfter (digitBefore pointBefore : Bool) (text : List Char) :
    Text.grouping digitBefore text =
      (numeralAfter digitBefore pointBefore text).map (fun c => decide (c = digitSeparator)) ++
        Text.grouping false (text.drop (numeralAfter digitBefore pointBefore text).length) := by
  fun_induction numeralAfter digitBefore pointBefore text with
  | case1 => rfl
  | case2 digitBefore _ c rest hdigit ih =>
    have hc := (Numeral.isDigit_ne_mark hdigit).1
    rw [Text.grouping, Text.separates_of_ne hc, hdigit, ih]
    simp [hc]
  | case3 digitBefore _ c rest hdigit hseparator ih =>
    have hc : c = digitSeparator := by
      simp only [Bool.and_eq_true, decide_eq_true_eq] at hseparator
      exact hseparator.1.1
    have hmark : Text.separates digitBefore c rest = true := hseparator
    rw [Text.grouping, hmark, Bool.eq_false_iff.2 hdigit, ih]
    simp [hc]
  | case4 digitBefore _ c rest hdigit hseparator hpoint ih =>
    have hmark : Text.separates digitBefore c rest = false := Bool.eq_false_iff.2 hseparator
    have hc := ne_digitSeparator_of_point hpoint
    rw [Text.grouping, hmark, Bool.eq_false_iff.2 hdigit, ih]
    simp [hc]
  | case5 digitBefore _ c rest hdigit hseparator hpoint =>
    have hmark : Text.separates digitBefore c rest = false := Bool.eq_false_iff.2 hseparator
    rw [Text.grouping, hmark, List.map_nil, List.nil_append, List.length_nil, List.drop_zero,
      Text.grouping, Text.separates_false]

/-- The numeral of a text without its separators is the numeral of the text without those between
    two digits. -/
theorem numeralAfter_ungroup (digitBefore pointBefore : Bool) (text : List Char) :
    numeralAfter digitBefore pointBefore (Text.ungroup digitBefore text) =
      withoutSeparators (numeralAfter digitBefore pointBefore text) := by
  fun_induction numeralAfter digitBefore pointBefore text with
  | case1 => rfl
  | case2 digitBefore _ c rest hdigit ih =>
    have hc := (Numeral.isDigit_ne_mark hdigit).1
    rw [Text.ungroup_cons, Text.separates_of_ne hc, hdigit]
    simp [numeralAfter, hdigit, ih, withoutSeparators, hc]
  | case3 digitBefore pointBefore c rest hdigit hseparator ih =>
    have hmark : Text.separates digitBefore c rest = true := hseparator
    simp only [Bool.and_eq_true, decide_eq_true_eq] at hseparator
    have hbegins : beginsWithDigit (Text.ungroup false rest) := by
      rw [Text.beginsWithDigit_ungroup]
      exact hseparator.2
    rw [Text.ungroup_cons, if_pos hmark, Bool.eq_false_iff.2 hdigit,
      numeralAfter_of_beginsWithDigit hbegins digitBefore false, ih]
    simp [withoutSeparators, hseparator.1.1]
  | case4 digitBefore pointBefore c rest hdigit hseparator hpoint ih =>
    have hmark : Text.separates digitBefore c rest = false := Bool.eq_false_iff.2 hseparator
    have hc := ne_digitSeparator_of_point hpoint
    rw [Text.ungroup_cons, hmark, Bool.eq_false_iff.2 hdigit]
    simp only [Bool.false_eq_true, if_false]
    rw [numeralAfter, if_neg hdigit, if_neg (by simp [hc]), if_pos hpoint, ih]
    simp [withoutSeparators, hc]
  | case5 digitBefore pointBefore c rest hdigit hseparator hpoint =>
    have hmark : Text.separates digitBefore c rest = false := Bool.eq_false_iff.2 hseparator
    rw [Text.ungroup_cons, hmark, Bool.eq_false_iff.2 hdigit]
    simp only [Bool.false_eq_true, if_false]
    rw [numeralAfter, if_neg hdigit, Text.beginsWithDigit_ungroup, if_neg hseparator,
      if_neg hpoint]
    rfl

/-- Whether a character of a lexeme is a separator between two digits. -/
def groups (lexeme : Lexeme) (c : Char) : Bool :=
  decide (lexeme.kind = .number) && decide (c = digitSeparator)

theorem text_bare_eq_filter (lexeme : Lexeme) :
    lexeme.bare.text = lexeme.text.filter fun c => !lexeme.groups c := by
  rw [text_bare]
  split
  · next hnumber =>
    refine List.filter_congr fun c _ => ?_
    rw [groups, decide_eq_true hnumber, Bool.true_and]
    rfl
  · next hnumber => simp [groups, hnumber]

/-- In a text behind anything but a digit, the separators between two digits of a lexeme depend on
    nothing behind it, and what comes behind it does not depend on it. -/
theorem grouping_append {lexeme : Lexeme} {rest : List Char}
    (h : first? (lexeme.text ++ rest) = some lexeme) :
    Text.grouping false (lexeme.text ++ rest) =
      lexeme.text.map lexeme.groups ++ Text.grouping false rest := by
  rcases number_or_isDigit_eq_false h with ⟨hnumber, -, hnumeral⟩ | ⟨hnumber, hdigits⟩
  · have hgrouping := grouping_numeralAfter false false (lexeme.text ++ rest)
    rw [← numeral, ← hnumeral, List.drop_left] at hgrouping
    rw [hgrouping]
    simp [groups, hnumber]
  · have hgroups : lexeme.groups = fun _ => false := by
      funext c
      simp [groups, hnumber]
    rw [Text.grouping_append_of_isDigit_eq_false hdigits, hgroups]

/-- Without the separators between two digits a lexeme of a text is a lexeme there. -/
theorem first?_bare {lexeme : Lexeme} {rest : List Char}
    (h : first? (lexeme.text ++ rest) = some lexeme) (hsolid : Text.Solid lexeme.text) :
    first? (lexeme.bare.text ++ Text.ungroup false rest) = some lexeme.bare := by
  have hungroup := Text.ungroup_append (grouping_append h)
  rw [← text_bare_eq_filter] at hungroup
  rcases number_or_isDigit_eq_false h with ⟨hnumber, hbegins, hnumeral⟩ | ⟨hnumber, -⟩
  · rw [← Text.beginsWithDigit_ungroup] at hbegins
    rw [← hungroup, first?_of_beginsWithDigit hbegins, numeral, numeralAfter_ungroup, ← numeral,
      ← hnumeral, bare, literal, if_pos hnumber, hnumber, String.toList_ofList]
  · have hbare : lexeme.bare = lexeme := by
      rw [bare, literal, if_neg hnumber, String.toList_ofList]
    rw [hbare]
    apply first?_append (first?_of_mem_lexemes (text_mem_lexemes h hsolid))
    rw [Text.head?_ungroup]
    exact takes_head?_eq_false h hsolid hnumber

/-- A lexeme with a separator that is not between two digits is nothing but that separator. -/
theorem eq_stray {text : List Char} {lexeme : Lexeme} (h : first? text = some lexeme)
    (hmem : digitSeparator ∈ lexeme.text) (hgroups : lexeme.groups digitSeparator = false) :
    lexeme = ⟨.invalid, [digitSeparator]⟩ := by
  cases leads_of_first? h with
  | sign rest hsign =>
    rw [← List.mem_singleton.1 hmem] at hsign
    cases hsign
  | @word c rest hsign hletter =>
    have hletters : ∀ d ∈ c :: rest.takeWhile Text.isLetter, Text.isLetter d :=
      List.forall_mem_cons.2 ⟨hletter, fun d hd => List.mem_takeWhile_imp hd⟩
    have hseparator := hletters _ hmem
    rw [(classes_of_mark (.inl rfl)).2.1] at hseparator
    cases hseparator
  | number => simp [groups] at hgroups
  | invalid rest hsign hletter hdigit => rw [List.mem_singleton.1 hmem]

end Lexeme

namespace Piece

/-- A piece without the separators between two digits. -/
def bare (piece : Piece) : Piece := ⟨piece.blanks, piece.lexeme.bare⟩

/-- Which characters of a piece are separators between two digits. -/
def grouping (piece : Piece) : List Bool :=
  piece.blanks.map (fun _ => false) ++ piece.lexeme.text.map piece.lexeme.groups

theorem grouping_append {piece : Piece} {rest : List Char} (hblanks : Text.Blank piece.blanks)
    (hfirst : first? (piece.lexeme.text ++ rest) = some piece.lexeme) :
    Text.grouping false (piece.text ++ rest) = piece.grouping ++ Text.grouping false rest := by
  rw [text, List.append_assoc, Text.grouping_append_of_blank hblanks,
    Lexeme.grouping_append hfirst, grouping, List.append_assoc]

theorem ungroup_append {piece : Piece} {rest : List Char} (hblanks : Text.Blank piece.blanks)
    (hfirst : first? (piece.lexeme.text ++ rest) = some piece.lexeme) :
    Text.ungroup false (piece.text ++ rest) = piece.bare.text ++ Text.ungroup false rest := by
  have hfront := Text.ungroup_append
    (Text.grouping_append_of_blank hblanks (piece.lexeme.text ++ rest))
  have hback := Text.ungroup_append (Lexeme.grouping_append hfirst)
  rw [← text_bare_eq_filter] at hback
  rw [hback] at hfront
  rw [text, List.append_assoc, hfront, text, bare, List.append_assoc]
  simp

/-- A text without its separators between two digits is made of its own pieces without them. -/
theorem exists_ungroup (text : List Char) :
    ∃ last, text = (all text).flatMap Piece.text ++ last ∧
      Text.grouping false text = (all text).flatMap grouping ++ last.map (fun _ => false) ∧
      Text.ungroup false text = ((all text).map bare).flatMap Piece.text ++ last ∧
      all (Text.ungroup false text) = (all text).map bare := by
  induction text using Piece.induction with
  | blank text hblank =>
    have hgrouping := Text.grouping_append_of_blank hblank []
    have hungroup := Text.ungroup_append hgrouping
    rw [List.append_nil] at hgrouping hungroup
    have hsame : Text.ungroup false text = text := by
      rw [hungroup]
      simp [Text.ungroup]
    refine ⟨text, ?_, ?_, ?_, ?_⟩ <;> rw [all_of_blank hblank]
    · rfl
    · rw [hgrouping]
      simp [Text.grouping]
    · exact hsame
    · rw [hsame, all_of_blank hblank]
      rfl
  | piece blanks lexeme rest hblanks hfirst hsolid ih =>
    obtain ⟨last, htext, hgrouping, hungroup, hall⟩ := ih
    have hgrouping' := @grouping_append ⟨blanks, lexeme⟩ rest hblanks hfirst
    have hungroup' := @ungroup_append ⟨blanks, lexeme⟩ rest hblanks hfirst
    rw [text, List.append_assoc] at hgrouping' hungroup'
    refine ⟨last, ?_, ?_, ?_, ?_⟩ <;> rw [all_append hblanks hfirst hsolid]
    · rw [List.flatMap_cons, List.append_assoc, ← htext, text, List.append_assoc]
    · rw [hgrouping', hgrouping, List.flatMap_cons, List.append_assoc]
    · rw [hungroup', hungroup, List.map_cons, List.flatMap_cons, List.append_assoc]
    · have hfirst' := first?_bare hfirst hsolid
      have hmem := text_bare_mem_lexemes (Lexeme.text_mem_lexemes hfirst hsolid)
      rw [hungroup', List.map_cons, ← hall, text, bare, List.append_assoc,
        all_append hblanks hfirst' (solid_of_mem_lexemes hmem)]

theorem text_bare (piece : Piece) :
    piece.bare.text =
      piece.blanks ++ piece.lexeme.text.filter fun c => !piece.lexeme.groups c := by
  rw [← text_bare_eq_filter]
  rfl

/-- A piece is shorter by the separators that it loses. -/
theorem length_text_bare (piece : Piece) :
    piece.bare.text.length + piece.grouping.count true = piece.text.length := by
  have hlexeme := Text.length_filter_add_count piece.lexeme.text piece.lexeme.groups
  have hblanks : (piece.blanks.map fun _ => false).count true = 0 :=
    List.count_eq_zero.2 (by simp)
  rw [text_bare, grouping, List.count_append, hblanks, text, List.length_append, List.length_append]
  omega

/-- A piece keeps its line feeds. -/
theorem count_text_bare (piece : Piece) :
    piece.bare.text.count '\n' = piece.text.count '\n' := by
  have hfeed : (!piece.lexeme.groups '\n') = true := by simp [groups, digitSeparator]
  have hlexeme : (piece.lexeme.text.filter fun c => !piece.lexeme.groups c).count '\n' =
      piece.lexeme.text.count '\n' := List.count_filter hfeed
  rw [text_bare, List.count_append, hlexeme, text, List.count_append]

section Places

variable (pieces : List Piece)

theorem length_flatMap_text_bare :
    ((pieces.map bare).flatMap text).length + (pieces.flatMap grouping).count true =
      (pieces.flatMap text).length := by
  induction pieces with
  | nil => rfl
  | cons piece pieces ih =>
    have hpiece := length_text_bare piece
    simp only [List.map_cons, List.flatMap_cons, List.length_append, List.count_append]
    omega

theorem count_flatMap_text_bare :
    ((pieces.map bare).flatMap text).count '\n' = (pieces.flatMap text).count '\n' := by
  induction pieces with
  | nil => rfl
  | cons piece pieces ih =>
    simp only [List.map_cons, List.flatMap_cons, List.count_append, count_text_bare, ih]

theorem length_flatMap_grouping :
    (pieces.flatMap grouping).length = (pieces.flatMap text).length := by
  induction pieces with
  | nil => rfl
  | cons piece pieces ih => simp [grouping, text, ih]

/-- Where a piece of a text lies without the separators between two digits: on the same line, and
    further to the left by the separators before it. -/
theorem walk_bare {whole blanks : List Char} {marks : List Bool}
    (hgrouping : Text.grouping false whole =
      pieces.flatMap grouping ++ (blanks.map (fun _ => false) ++ marks)) :
    let start := Cursor.walk {} (pieces.flatMap text ++ blanks)
    let start' := Cursor.walk {} ((pieces.map bare).flatMap text ++ blanks)
    start'.position = start.position - Text.groupedBefore whole start.position.toNat ∧
      start'.line = start.line := by
  have hbefore : Text.groupedBefore whole (pieces.flatMap text ++ blanks).length =
      (pieces.flatMap grouping).count true := by
    have hblanks : (blanks.map fun _ => false).count true = 0 := List.count_eq_zero.2 (by simp)
    have hlength : (pieces.flatMap text ++ blanks).length =
        (pieces.flatMap grouping ++ blanks.map fun _ => false).length := by
      rw [List.length_append, List.length_append, length_flatMap_grouping, List.length_map]
    rw [Text.groupedBefore, hgrouping, ← List.append_assoc, hlength, List.take_left,
      List.count_append, hblanks, Nat.add_zero]
  have hpieces := length_flatMap_text_bare pieces
  simp only [Cursor.walk_beginning, Int.toNat_natCast, hbefore]
  rw [List.count_append, List.count_append, count_flatMap_text_bare, List.length_append,
    List.length_append]
  omega

end Places

end Piece

/-- A token of a text, and the one that it becomes without the separators between two digits. -/
structure Token.Ungrouped (text : List Char) (token other : Token) : Prop where
  word_eq : other.word = token.word
  position_eq : other.start.position =
    token.start.position - Text.groupedBefore text token.start.position.toNat
  line_eq : other.start.line = token.start.line

/-- The tokens of a text, each with the one that it becomes. -/
theorem Piece.ungrouped_tokens (text : List Char) :
    List.Forall₂ (Token.Ungrouped text) (tokens {} (all text))
      (tokens {} (all (Text.ungroup false text))) := by
  obtain ⟨last, -, hgrouping, -, hall⟩ := exists_ungroup text
  rw [hall, List.forall₂_iff_get]
  refine ⟨by simp, fun i hi hi' => ?_⟩
  have hpiece : i < (all text).length := by simpa using hi
  have hmarks : Text.grouping false text = ((all text).take i).flatMap grouping ++
      ((all text)[i].blanks.map (fun _ => false) ++
        ((all text)[i].lexeme.text.map (all text)[i].lexeme.groups ++
          (((all text).drop (i + 1)).flatMap grouping ++ last.map fun _ => false))) := by
    have hpieces : (all text).flatMap grouping = ((all text).take i).flatMap grouping ++
        ((all text)[i].grouping ++ ((all text).drop (i + 1)).flatMap grouping) := by
      conv_lhs => rw [← List.take_append_drop i (all text), List.drop_eq_getElem_cons hpiece]
      rw [List.flatMap_append, List.flatMap_cons]
    rw [hgrouping, hpieces, grouping]
    simp only [List.append_assoc]
  obtain ⟨hposition, hline⟩ := walk_bare _ hmarks
  simp only [List.get_eq_getElem, getElem_tokens, List.getElem_map, front, ← List.map_take]
  refine ⟨?_, hposition, hline⟩
  simp only [Token.word, bare, literal_bare]
  rfl

/-- A separator that does not stand between two digits is a token by itself. -/
theorem Piece.exists_stray (cursor : Cursor) (text : List Char) {k : Nat}
    (hk : text[k]? = some digitSeparator) (hmark : (Text.grouping false text)[k]? = some false) :
    ∃ token ∈ tokens cursor (all text), token.word = (.invalid, "_") ∧
      token.start.position = cursor.position + k := by
  have hsolid : Text.isBlank digitSeparator = false := (classes_of_mark (.inl rfl)).1
  induction text using Piece.induction generalizing cursor k with
  | blank text hblank =>
    rw [hblank _ (List.mem_of_getElem? hk)] at hsolid
    cases hsolid
  | piece blanks lexeme rest hblanks hfirst hlexeme ih =>
    have hgrouping := @grouping_append ⟨blanks, lexeme⟩ rest hblanks hfirst
    rw [Piece.text, List.append_assoc] at hgrouping
    rw [hgrouping, grouping, List.append_assoc] at hmark
    rw [all_append hblanks hfirst hlexeme]
    -- The separator lies within the lexeme of the first piece, or behind that piece.
    by_cases hleft : k < blanks.length
    · rw [List.getElem?_append_left hleft] at hk
      rw [hblanks _ (List.mem_of_getElem? hk)] at hsolid
      cases hsolid
    rw [List.getElem?_append_right (by omega)] at hk
    rw [List.getElem?_append_right (by simp; omega), List.length_map] at hmark
    by_cases hmiddle : k - blanks.length < lexeme.text.length
    · rw [List.getElem?_append_left hmiddle] at hk
      rw [List.getElem?_append_left (by simpa using hmiddle), List.getElem?_map, hk] at hmark
      obtain rfl := eq_stray hfirst (List.mem_of_getElem? hk) (Option.some.inj hmark)
      have hplace : k = blanks.length := by
        rw [List.length_singleton] at hmiddle
        omega
      refine ⟨_, List.mem_cons_self, rfl, ?_⟩
      rw [Cursor.position_walk, hplace]
    · rw [List.getElem?_append_right (by omega)] at hk
      rw [List.getElem?_append_right (by simp; omega), List.length_map] at hmark
      obtain ⟨token, htoken, hword, hposition⟩ :=
        ih (cursor.walk (blanks ++ lexeme.text)) hk hmark
      refine ⟨token, List.mem_cons_of_mem _ htoken, hword, ?_⟩
      rw [hposition, Cursor.position_walk, List.length_append]
      omega

/-- Separators between two digits never change the meaning of a text. Without them it has the same
    kinds and literals in the same order and on the same lines, each further to the left by the
    separators that were before it, and it is parsed to an equal program or refused for the same
    reason. Any other separator is a token of its own that no grammar admits, in both texts. -/
theorem ungroup_keeps_reading (text : String) :
    ∃ (tokens others : List Token) (last last' : Token),
      let ungrouped := String.ofList (Text.ungroup false text.toList)
      tokenize text = .ok tokens ∧ tokensToEnd text = .ok (tokens ++ [last]) ∧
      tokenize ungrouped = .ok others ∧ tokensToEnd ungrouped = .ok (others ++ [last']) ∧
      List.Forall₂ (Token.Ungrouped text.toList) (tokens ++ [last]) (others ++ [last']) ∧
      ReadAlike (tokens ++ [last]) (others ++ [last']) (parse text) (parse ungrouped) ∧
      ∀ k : Nat, text.toList[k]? = some '_' →
        (Text.grouping false text.toList)[k]? = some false →
        ∃ token ∈ tokens, ∃ other ∈ others,
          token.word = (.invalid, "_") ∧ token.start.position = k ∧
          other.word = (.invalid, "_") ∧
          other.start.position = k - Text.groupedBefore text.toList k := by
  obtain ⟨htokenize, htokensToEnd⟩ := tokens_eq text
  obtain ⟨htokenize', htokensToEnd'⟩ := tokens_eq (String.ofList (Text.ungroup false text.toList))
  rw [String.toList_ofList] at htokenize' htokensToEnd'
  have hungrouped := Piece.ungrouped_tokens text.toList
  have hlast : Token.Ungrouped text.toList
      ⟨.endOfInput, "", Cursor.walk {} text.toList⟩
      ⟨.endOfInput, "", Cursor.walk {} (Text.ungroup false text.toList)⟩ := by
    obtain ⟨last, htext, hgrouping, hungroup, -⟩ := Piece.exists_ungroup text.toList
    rw [← List.append_nil (last.map fun _ => false)] at hgrouping
    obtain ⟨hposition, hline⟩ := Piece.walk_bare _ hgrouping
    rw [← htext, ← hungroup] at hposition hline
    exact ⟨rfl, hposition, hline⟩
  have hall := List.rel_append hungrouped (.cons hlast .nil)
  have hwords := map_eq_map_iff_forall₂.2 (hall.imp fun _ _ h => h.word_eq.symm)
  refine ⟨_, _, _, _, htokenize, htokensToEnd, htokenize', htokensToEnd', hall, ?_, ?_⟩
  · exact readAlike_of_map_word_eq htokensToEnd htokensToEnd' hwords
  · intro k hk hmark
    obtain ⟨token, htoken, hword, hposition⟩ := Piece.exists_stray {} text.toList hk hmark
    obtain ⟨i, hi, rfl⟩ := List.getElem_of_mem htoken
    have hi' : i < (Piece.tokens {} (Piece.all (Text.ungroup false text.toList))).length :=
      hungrouped.length_eq ▸ hi
    obtain ⟨hword', hposition', -⟩ := hungrouped.get hi hi'
    rw [List.get_eq_getElem, List.get_eq_getElem] at hword' hposition'
    rw [hposition, Int.zero_add] at hposition'
    rw [Int.zero_add] at hposition
    exact ⟨_, htoken, _, List.getElem_mem hi', hword, hposition, hword'.trans hword, hposition'⟩

/-- Of the two separators of `1_2_` the first stands between two digits, and the second does not. -/
theorem ungroup_keeps_reading_of_stray :
    "1_2_".toList[3]? = some '_' ∧ (Text.grouping false "1_2_".toList)[3]? = some false ∧
      ∃ tokens others : List Token, tokenize "1_2_" = .ok tokens ∧
        tokenize (String.ofList (Text.ungroup false "1_2_".toList)) = .ok others ∧
        ∃ token ∈ tokens, ∃ other ∈ others,
          token.word = (.invalid, "_") ∧ token.start.position = (3 : Nat) ∧
          other.word = (.invalid, "_") ∧
          other.start.position = (3 : Nat) - Text.groupedBefore "1_2_".toList 3 := by
  have hseparator : "1_2_".toList[3]? = some '_' := by decide +kernel
  have hmark : (Text.grouping false "1_2_".toList)[3]? = some false := by decide +kernel
  obtain ⟨tokens, others, last, last', htokens, -, hothers, -, -, -, hstray⟩ :=
    ungroup_keeps_reading "1_2_"
  exact ⟨hseparator, hmark, tokens, others, htokens, hothers, hstray 3 hseparator hmark⟩

end LetArith
