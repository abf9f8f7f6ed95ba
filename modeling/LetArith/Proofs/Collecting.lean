import LetArith.Proofs.Agreement

namespace LetArith

open Words

/-- What a numeral is at any place: digits, and a point, and digits behind it, each of which may be
    missing. -/
def Numeral.anywhere : Language Char :=
  optionally digits * optionally (single Lexeme.decimalPoint * optionally digits)

theorem Numeral.longest_numeral_anywhere (text : List Char) :
    Longest anywhere (Lexeme.numeral text) text := by
  have hanywhere : anywhere = continuation false false := rfl
  rw [hanywhere]
  exact ⟨numeralAfter_mem false false text, Lexeme.numeralAfter_isPrefix false false text,
    fun _ hother hbegins => isPrefix_numeralAfter hother hbegins⟩

namespace Lexer

theorem ahead?_eq {l : Lexer} (hposition : 0 ≤ l.cursor.position) (distance : Nat) :
    l.ahead? distance = l.rest[distance]? := by
  have hindex : (l.cursor.position + distance).toNat = l.cursor.position.toNat + distance := by
    omega
  rw [ahead?, if_pos (by omega), rest, if_pos hposition, List.getElem?_drop, hindex]

/-- The character that the text goes on with is the one that is consumed. -/
theorem advance_of_rest {l : Lexer} (hposition : 0 ≤ l.cursor.position) {c : Char}
    {behind : List Char} (hrest : l.rest = c :: behind) :
    l.advance = .ok c (l.skip [c]) ∧ (l.skip [c]).rest = behind := by
  rw [rest, if_pos hposition] at hrest
  have hinside : l.cursor.position.toNat < l.source.length := by
    by_contra hnot
    rw [List.drop_eq_nil_of_le (by omega)] at hrest
    cases hrest
  have hcharacter : l.source[l.cursor.position.toNat]? = some c := by
    have hhead := congrArg List.head? hrest
    rwa [List.head?_drop] at hhead
  constructor
  · have hend : l.atEnd = false := by
      simp only [atEnd, decide_eq_false_iff_not]
      omega
    simp only [advance, hend, characterAt?, if_pos hposition, hcharacter, Bool.false_eq_true,
      if_false]
    rfl
  · have htail := congrArg List.tail hrest
    have hindex : (l.cursor.position + 1).toNat = l.cursor.position.toNat + 1 := by omega
    simp only [rest, skip, Cursor.walk_cons, Cursor.walk_nil, Cursor.position_step]
    rwa [if_pos (by omega), hindex, ← List.tail_drop]

end Lexer

/-- What has been collected of a numeral. -/
structure Collected where
  text : List Char := []
  hasPoint : Bool := false

namespace Collected

open Lexeme

/-- Whether a digit was collected last. -/
def endsWithDigit (collected : Collected) : Bool := collected.text.getLast?.any Text.isDigit

/-- What is collected when the character under the cursor goes on with the numeral. A separator is
    dropped. It goes on only between two digits, and a point only if it is the first. -/
def onward? (collected : Collected) (l : Lexer) : Option Collected :=
  match l.ahead? 0 with
  | none => none
  | some c =>
    if Text.isDigit c then some { collected with text := collected.text ++ [c] }
    else if c = digitSeparator && collected.endsWithDigit && (l.ahead? 1).any Text.isDigit then
      some collected
    else if c = decimalPoint && !collected.hasPoint then some ⟨collected.text ++ [c], true⟩
    else none

/-- Collects a numeral, character by character. -/
def collect (collected : Collected) (l : Lexer) : Step String :=
  match collected.onward? l with
  | none => .ok (String.ofList collected.text) l
  | some more =>
    match _ : l.advance with
    | .error fault l' => .error fault l'
    | .ok _ l' => collect more l'
termination_by l.remaining
decreasing_by exact Lexer.remaining_advance ‹_›

private theorem collect_of_none {collected : Collected} {l : Lexer}
    (h : collected.onward? l = none) :
    collected.collect l = .ok (String.ofList collected.text) l := by
  rw [collect, h]

private theorem collect_of_some {collected more : Collected} {l l' : Lexer} {c : Char}
    (h : collected.onward? l = some more) (hadvance : l.advance = .ok c l') :
    collected.collect l = more.collect l' := by
  rw [collect, h]
  simp only
  split
  · next hfault =>
    rw [hadvance] at hfault
    cases hfault
  · next hok =>
    rw [hadvance] at hok
    cases hok
    rfl

private theorem onward?_of_rest {collected : Collected} {l : Lexer}
    (hposition : 0 ≤ l.cursor.position)
    {c : Char} {behind : List Char} (hrest : l.rest = c :: behind) :
    collected.onward? l =
      if Text.isDigit c then some { collected with text := collected.text ++ [c] }
      else if c = digitSeparator && collected.endsWithDigit &&
        beginsWithDigit behind then some collected
      else if c = decimalPoint && !collected.hasPoint then some ⟨collected.text ++ [c], true⟩
      else none := by
  have hcurrent : l.ahead? 0 = some c := by
    rw [← Int.natCast_zero, Lexer.ahead?_eq hposition, hrest]
    rfl
  have hnext : (l.ahead? 1).any Text.isDigit = beginsWithDigit behind := by
    rw [← Int.natCast_one, Lexer.ahead?_eq hposition, hrest]
    cases behind <;> rfl
  rw [onward?, hcurrent, hnext]

/-- One round of collecting goes on as a numeral may, and keeps the character unless it is a
    separator. -/
theorem numeralAfter_of_onward? (collected : Collected) {l : Lexer}
    (hposition : 0 ≤ l.cursor.position) {c : Char} {behind : List Char}
    (hrest : l.rest = c :: behind) :
    match collected.onward? l with
    | none => numeralAfter collected.endsWithDigit collected.hasPoint (c :: behind) = []
    | some more => more.text = collected.text ++ withoutSeparators [c] ∧
        numeralAfter collected.endsWithDigit collected.hasPoint (c :: behind) =
          c :: numeralAfter more.endsWithDigit more.hasPoint behind := by
  rw [onward?_of_rest hposition hrest, numeralAfter]
  by_cases hdigit : Text.isDigit c
  case pos =>
    have hends : endsWithDigit { collected with text := collected.text ++ [c] } = true := by
      simp [endsWithDigit, hdigit]
    simp [hdigit, hends, withoutSeparators, (Numeral.isDigit_ne_mark hdigit).1]
  case neg =>
    rw [if_neg hdigit, if_neg hdigit]
    by_cases hseparator :
      (c = digitSeparator && collected.endsWithDigit && beginsWithDigit behind) = true
    case pos =>
      rw [if_pos hseparator, if_pos hseparator]
      simp only [Bool.and_eq_true, decide_eq_true_eq] at hseparator
      obtain ⟨⟨rfl, -⟩, hbegins⟩ := hseparator
      refine ⟨(List.append_nil _).symm, ?_⟩
      rw [numeralAfter_of_beginsWithDigit hbegins false collected.endsWithDigit]
    case neg =>
      rw [if_neg hseparator, if_neg hseparator]
      by_cases hpoint : (c = decimalPoint && !collected.hasPoint) = true
      case pos =>
        have hends : endsWithDigit ⟨collected.text ++ [c], true⟩ = false := by
          simp [endsWithDigit, hdigit]
        rw [if_pos hpoint, if_pos hpoint]
        simp only [Bool.and_eq_true, decide_eq_true_eq] at hpoint
        obtain ⟨rfl, -⟩ := hpoint
        exact ⟨rfl, by rw [hends]⟩
      case neg => rw [if_neg hpoint, if_neg hpoint]

/-- From what has been collected on, just that beginning of the text is collected by which a numeral
    may go on there. -/
theorem collect_eq (collected : Collected) {l : Lexer} (hposition : 0 ≤ l.cursor.position) :
    let taken := numeralAfter collected.endsWithDigit collected.hasPoint l.rest
    collected.collect l =
      .ok (String.ofList (collected.text ++ withoutSeparators taken)) (l.skip taken) := by
  induction hrest : l.rest generalizing collected l with
  | nil =>
    have hnothing : l.ahead? 0 = none := by
      rw [← Int.natCast_zero, Lexer.ahead?_eq hposition, hrest]
      rfl
    rw [collect_of_none (by rw [onward?, hnothing])]
    simp [numeralAfter, withoutSeparators, Lexer.skip]
  | cons c behind ih =>
    have hround := numeralAfter_of_onward? collected hposition hrest
    cases honward : collected.onward? l with
    | none =>
      rw [honward] at hround
      rw [collect_of_none honward, hround]
      simp [withoutSeparators, Lexer.skip]
    | some more =>
      rw [honward] at hround
      obtain ⟨htext, htaken⟩ := hround
      obtain ⟨hadvance, hbehind⟩ := Lexer.advance_of_rest hposition hrest
      have hposition' : 0 ≤ (l.skip [c]).cursor.position := by
        rw [Lexer.skip, Cursor.position_walk]
        omega
      rw [collect_of_some honward hadvance, ih more hposition' hbehind, htext, htaken,
        List.append_assoc, withoutSeparators, withoutSeparators, ← List.filter_append]
      rfl

end Collected

namespace Lexer

/-- At any cursor from the beginning of its text on, a lexer reads the longest numeral that lies
    there, which may be empty, and answers it without its separators. It ends on the line on which
    it began. Reading it character by character comes to the same, and so never meets the end of the
    text. -/
theorem readNumeral_takes_longest {l : Lexer} (hposition : 0 ≤ l.cursor.position) :
    ∃ taken, Longest Numeral.anywhere taken (l.source.drop l.cursor.position.toNat) ∧
      l.readNumeral = .ok (String.ofList (taken.filter (· != '_')))
        { l with cursor := ⟨l.cursor.position + taken.length, l.cursor.line,
            l.cursor.column + taken.length⟩ } ∧
      Collected.collect {} l = l.readNumeral := by
  have hrest : l.rest = l.source.drop l.cursor.position.toNat := by rw [rest, if_pos hposition]
  refine ⟨Lexeme.numeral l.rest, ?_, ?_, ?_⟩
  · rw [← hrest]
    exact Numeral.longest_numeral_anywhere l.rest
  · have hline : '\n' ∉ Lexeme.numeral l.rest := by
      intro hmem
      have hblank : Text.isBlank '\n' = true := by decide +kernel
      rw [(Lexeme.classes_of_mem_numeralAfter hmem).1] at hblank
      cases hblank
    rw [← Cursor.walk_of_notMem _ hline]
    rfl
  · exact Collected.collect_eq {} hposition

/-- A numeral that begins with its point, from the middle of a line. -/
theorem readNumeral_takes_longest_at_point :
    let l : Lexer := ⟨"a_.5_0_.b".toList, ⟨2, 3, 7⟩, []⟩
    0 ≤ l.cursor.position ∧
      l.readNumeral = .ok ".50" ⟨l.source, ⟨6, 3, 11⟩, []⟩ ∧
      ∃ taken, Longest Numeral.anywhere taken (l.source.drop l.cursor.position.toNat) ∧
        l.readNumeral = .ok (String.ofList (taken.filter (· != '_')))
          { l with cursor := ⟨l.cursor.position + taken.length, l.cursor.line,
              l.cursor.column + taken.length⟩ } ∧
        Collected.collect {} l = l.readNumeral := by
  intro l
  have htaken : Lexeme.numeral l.rest = ".5_0".toList := by decide +kernel
  have hread : l.readNumeral = .ok ".50" ⟨l.source, ⟨6, 3, 11⟩, []⟩ := by
    rw [readNumeral, htaken]
    rfl
  exact ⟨by decide, hread, readNumeral_takes_longest (by decide)⟩

end Lexer

end LetArith
