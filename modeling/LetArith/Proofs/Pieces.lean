import LetArith.Lexer.Progress
import LetArith.Proofs.Characters
import Mathlib.Data.List.DropRight
import Mathlib.Data.List.TakeWhile

namespace LetArith

/-- Nothing but blanks. -/
def Text.Blank (text : List Char) : Prop := ∀ c ∈ text, Text.isBlank c

theorem Text.blank_space : Blank [' '] := List.forall_mem_singleton.2 (by decide +kernel)

/-- Where a text does not end with a blank, blanks are dropped from what comes behind it only. -/
theorem Text.rdropWhile_append {before : List Char}
    (hkept : before.rdropWhile isBlank = before) (text : List Char) :
    (before ++ text).rdropWhile isBlank = before ++ text.rdropWhile isBlank := by
  induction text using List.reverseRecOn with
  | nil => simpa using hkept
  | append_singleton text c ih =>
    rw [← List.append_assoc]
    by_cases hblank : isBlank c
    · rw [List.rdropWhile_concat_pos _ _ _ hblank, List.rdropWhile_concat_pos _ _ _ hblank, ih]
    · rw [List.rdropWhile_concat_neg _ _ _ hblank, List.rdropWhile_concat_neg _ _ _ hblank,
        List.append_assoc]

/-- No blank at all. -/
def Text.Solid (text : List Char) : Prop := ∀ c ∈ text, Text.isBlank c = false

namespace Lexeme

private theorem isDigit_or_mark_of_mem {digitBefore pointBefore : Bool} {text : List Char}
    {c : Char}
    (hc : c ∈ numeralAfter digitBefore pointBefore text) :
    Text.isDigit c ∨ c = digitSeparator ∨ c = decimalPoint := by
  fun_induction numeralAfter digitBefore pointBefore text with
  | case1 => cases hc
  | case2 _ _ first rest hdigit ih =>
    rcases List.mem_cons.1 hc with rfl | hc
    · exact .inl hdigit
    · exact ih hc
  | case3 _ _ first rest _ hseparator ih =>
    simp only [Bool.and_eq_true, decide_eq_true_eq] at hseparator
    rcases List.mem_cons.1 hc with rfl | hc
    · exact .inr (.inl hseparator.1.1)
    · exact ih hc
  | case4 _ _ first rest _ _ hpoint ih =>
    simp only [Bool.and_eq_true, decide_eq_true_eq] at hpoint
    rcases List.mem_cons.1 hc with rfl | hc
    · exact .inr (.inr hpoint.1)
    · exact ih hc
  | case5 => cases hc

/-- The classes to which no character of a numeral belongs. -/
theorem classes_of_mem_numeralAfter {digitBefore pointBefore : Bool} {text : List Char} {c : Char}
    (hc : c ∈ numeralAfter digitBefore pointBefore text) :
    Text.isBlank c = false ∧ Text.isLetter c = false := by
  rcases isDigit_or_mark_of_mem hc with hdigit | hmark
  · exact ⟨Text.isBlank_eq_false_of_isDigit hdigit, Text.isLetter_eq_false_of_isDigit hdigit⟩
  · obtain ⟨hblank, hletter, -⟩ := classes_of_mark hmark
    exact ⟨hblank, hletter⟩

theorem solid_text {text : List Char} {lexeme : Lexeme} (h : first? text = some lexeme)
    (hhead : ∀ c, text.head? = some c → Text.isBlank c = false) : Text.Solid lexeme.text := by
  cases leads_of_first? h with
  | sign rest hsign => exact List.forall_mem_singleton.2 (hhead _ rfl)
  | word rest hsign hletter =>
    refine List.forall_mem_cons.2 ⟨hhead _ rfl, fun c hc => ?_⟩
    exact Text.isBlank_eq_false_of_isLetter (List.mem_takeWhile_imp hc)
  | number rest hsign hletter hdigit =>
    exact List.forall_mem_cons.2 ⟨hhead _ rfl, fun c hc => (classes_of_mem_numeralAfter hc).1⟩
  | invalid rest hsign hletter hdigit => exact List.forall_mem_singleton.2 (hhead _ rfl)

private theorem length_behind_lt {text : List Char} {lexeme : Lexeme}
    (h : first? (text.dropWhile Text.isBlank) = some lexeme) :
    ((text.dropWhile Text.isBlank).drop lexeme.text.length).length < text.length := by
  have htext := List.length_pos_iff.2 (first?_ne_nil h).2
  have hrest := (text_isPrefix h).length_le
  have hdropped := (List.dropWhile_suffix (l := text) Text.isBlank).length_le
  simp only [List.length_drop]
  omega

end Lexeme

/-- A lexeme with the blanks before it. -/
structure Piece where
  blanks : List Char
  lexeme : Lexeme

namespace Piece

def text (piece : Piece) : List Char := piece.blanks ++ piece.lexeme.text

/-- The pieces of a text. -/
def all (text : List Char) : List Piece :=
  match _ : Lexeme.first? (text.dropWhile Text.isBlank) with
  | none => []
  | some lexeme =>
    ⟨text.takeWhile Text.isBlank, lexeme⟩ ::
      all ((text.dropWhile Text.isBlank).drop lexeme.text.length)
termination_by text.length
decreasing_by exact Lexeme.length_behind_lt ‹_›

theorem all_of_blank {text : List Char} (hblank : Text.Blank text) : all text = [] := by
  have hdropped : text.dropWhile Text.isBlank = [] := List.dropWhile_eq_nil_iff.2 hblank
  rw [all]
  split
  · rfl
  · next hfirst =>
    rw [hdropped] at hfirst
    cases hfirst

/-- The blanks before a lexeme without blanks end where it begins. -/
theorem takeWhile_append {blanks rest : List Char} {lexeme : Lexeme} (hblanks : Text.Blank blanks)
    (hfirst : Lexeme.first? (lexeme.text ++ rest) = some lexeme)
    (hsolid : Text.Solid lexeme.text) :
    (blanks ++ (lexeme.text ++ rest)).takeWhile Text.isBlank = blanks ∧
      (blanks ++ (lexeme.text ++ rest)).dropWhile Text.isBlank = lexeme.text ++ rest := by
  have hstop : (lexeme.text ++ rest).takeWhile Text.isBlank = [] ∧
      (lexeme.text ++ rest).dropWhile Text.isBlank = lexeme.text ++ rest := by
    cases htext : lexeme.text with
    | nil => exact absurd htext (Lexeme.first?_ne_nil hfirst).2
    | cons c others =>
      have hc : Text.isBlank c = false := hsolid c (by simp [htext])
      simp [hc]
  rw [List.takeWhile_append_of_pos hblanks, List.dropWhile_append_of_pos hblanks, hstop.1, hstop.2]
  exact ⟨List.append_nil blanks, rfl⟩

/-- A lexeme without blanks, behind blanks, is a piece. -/
theorem all_append {blanks rest : List Char} {lexeme : Lexeme} (hblanks : Text.Blank blanks)
    (hfirst : Lexeme.first? (lexeme.text ++ rest) = some lexeme)
    (hsolid : Text.Solid lexeme.text) :
    all (blanks ++ (lexeme.text ++ rest)) = ⟨blanks, lexeme⟩ :: all rest := by
  obtain ⟨htaken, hdropped⟩ := takeWhile_append hblanks hfirst hsolid
  rw [all]
  split
  · next hnone =>
    rw [hdropped, hfirst] at hnone
    cases hnone
  · next found hfound =>
    rw [hdropped, hfirst] at hfound
    obtain rfl := Option.some.inj hfound
    rw [htaken, hdropped, List.drop_left]

/-- Induction along the pieces of a text. -/
theorem induction {motive : List Char → Prop}
    (blank : ∀ text, Text.Blank text → motive text)
    (piece : ∀ blanks lexeme rest, Text.Blank blanks →
      Lexeme.first? (lexeme.text ++ rest) = some lexeme → Text.Solid lexeme.text → motive rest →
      motive (blanks ++ (lexeme.text ++ rest)))
    (text : List Char) : motive text := by
  induction hlength : text.length using Nat.strongRecOn generalizing text with
  | _ n ih =>
    cases hfirst : Lexeme.first? (text.dropWhile Text.isBlank) with
    | none =>
      apply blank
      exact List.dropWhile_eq_nil_iff.1 (Lexeme.first?_eq_none_iff.1 hfirst)
    | some lexeme =>
      obtain ⟨rest, hrest⟩ := Lexeme.text_isPrefix hfirst
      have htext : text.takeWhile Text.isBlank ++ (lexeme.text ++ rest) = text := by
        rw [hrest, List.takeWhile_append_dropWhile]
      have hpositive := List.length_pos_iff.2 (Lexeme.first?_ne_nil hfirst).2
      have hlt : rest.length < n := by
        rw [← hlength, ← htext]
        simp only [List.length_append]
        omega
      rw [← htext]
      apply piece _ lexeme rest (fun c hc => List.mem_takeWhile_imp hc) (hrest ▸ hfirst) ?_
        (ih rest.length hlt rest rfl)
      refine Lexeme.solid_text hfirst fun c hc => ?_
      have hstop := List.head?_dropWhile_not Text.isBlank text
      rwa [hc] at hstop

end Piece

end LetArith
