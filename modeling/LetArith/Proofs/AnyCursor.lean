import LetArith.Proofs.Classes
import LetArith.Proofs.Contract
import LetArith.Proofs.Trace

namespace LetArith

open scoped Computability
open Words

namespace Numeral

/-- The numerals without separators: digits, and a point, and digits behind it. -/
def plain : Language Char := digit * digit∗ * optionally (single Lexeme.decimalPoint * digit∗)

/-- What may come from the point of a numeral without separators on. -/
def plainFraction (pointBefore : Bool) : Language Char :=
  if pointBefore then 1 else optionally (single Lexeme.decimalPoint * digit∗)

/-- What a numeral without separators may go on with. -/
def plainContinuation (pointBefore : Bool) : Language Char := digit∗ * plainFraction pointBefore

private theorem plainContinuation_eq (pointBefore : Bool) :
    plainContinuation pointBefore =
      plainFraction pointBefore + digit * plainContinuation pointBefore := by
  calc plainContinuation pointBefore
      = (1 + digit * digit∗) * plainFraction pointBefore := by
        rw [Language.one_add_self_mul_kstar_eq_kstar]; rfl
    _ = _ := by rw [add_mul, one_mul, mul_assoc]; rfl

private theorem plainFraction_false_eq :
    plainFraction false = 1 + single Lexeme.decimalPoint * plainContinuation true := by
  simp [plainFraction, plainContinuation, optionally]

private theorem nil_mem_plainContinuation (pointBefore : Bool) :
    [] ∈ plainContinuation pointBefore := by
  rw [plainContinuation_eq]
  cases pointBefore
  · rw [plainFraction_false_eq]
    exact .inl (.inl rfl)
  · exact .inl rfl

/-- Without its separators, what a numeral may go on with is what one without separators may. -/
theorem withoutSeparators_mem_plainContinuation {digitBefore pointBefore : Bool} {text : List Char}
    (htext : text ∈ continuation digitBefore pointBefore) :
    Lexeme.withoutSeparators text ∈ plainContinuation pointBefore := by
  induction text generalizing digitBefore pointBefore with
  | nil => exact nil_mem_plainContinuation pointBefore
  | cons c text ih =>
    rw [Lexeme.withoutSeparators, List.filter_cons]
    rcases cons_mem_continuation.1 htext with
      ⟨hdigit, hrest⟩ | ⟨-, rfl, hrest⟩ | ⟨rfl, rfl, hrest⟩
    · rw [if_pos (bne_iff_ne.2 (isDigit_ne_mark hdigit).1), plainContinuation_eq]
      exact .inr (cons_mem_oneOf_mul.2 ⟨hdigit, ih hrest⟩)
    · have hfalse : text ∈ continuation false pointBefore := by
        rw [continuation_false_eq]
        exact .inr hrest
      rw [if_neg (by decide)]
      exact ih hfalse
    · rw [if_pos (by decide), plainContinuation_eq, plainFraction_false_eq]
      exact .inl (.inr (cons_mem_single_mul.2 ⟨rfl, ih hrest⟩))

private theorem withoutSeparators_mem_plain {text : List Char} (htext : text ∈ numeral) :
    Lexeme.withoutSeparators text ∈ plain := by
  rw [numeral_eq] at htext
  obtain ⟨c, rest, rfl, hdigit, hrest⟩ := exists_cons_of_mem_digit_mul htext
  rw [Lexeme.withoutSeparators, List.filter_cons,
    if_pos (bne_iff_ne.2 (isDigit_ne_mark hdigit).1), plain, mul_assoc]
  exact cons_mem_oneOf_mul.2 ⟨hdigit, withoutSeparators_mem_plainContinuation hrest⟩

end Numeral

/-- The tokens of characters before the beginning of a text: each is a token by itself. -/
def Token.strays (cursor : Cursor) : List Char → List Token
  | [] => []
  | c :: rest => ⟨.invalid, String.ofList [c], cursor⟩ :: strays (cursor.step c) rest

@[simp] theorem Token.length_strays (cursor : Cursor) (text : List Char) :
    (strays cursor text).length = text.length := by
  induction text generalizing cursor with
  | nil => rfl
  | cons c text ih => simp [strays, ih]

theorem Token.getElem_strays (cursor : Cursor) {text : List Char} {i : Nat}
    (hi : i < (strays cursor text).length) :
    (strays cursor text)[i] =
      have hi : i < text.length := by simpa using hi
      ⟨.invalid, String.ofList [text[i]], cursor.walk (text.take i)⟩ := by
  induction text generalizing cursor i with
  | nil => simp [strays] at hi
  | cons c text ih =>
    cases i with
    | zero => rfl
    | succ i => simp [strays, ih]

namespace Lexer

private theorem literal_mem_plain {l l' : Lexer} {token : Token} (hnext : l.next = .ok token l')
    (hkind : token.kind = .number) : token.literal.toList ∈ Numeral.plain := by
  obtain ⟨cursor, hfound, -⟩ := next_eq_ok_iff.1 hnext
  rw [tokenAt?] at hfound
  split at hfound
  · rcases Token.scan_cases l.cursor (l.source.drop l.cursor.position.toNat) with
      ⟨-, hscan⟩ | ⟨blanks, lexeme, behind, -, hfirst, hsolid, hscan⟩
    · rw [hscan, Option.some.injEq, Prod.mk.injEq] at hfound
      rw [← hfound.1] at hkind
      cases hkind
    · rw [hscan, Option.some.injEq, Prod.mk.injEq] at hfound
      rw [← hfound.1] at hkind ⊢
      have hmem := Lexeme.text_mem_lexemes hfirst hsolid
      simp only at hkind
      rw [hkind] at hmem
      simp only [Lexeme.literal, if_pos hkind, String.toList_ofList]
      exact Numeral.withoutSeparators_mem_plain hmem
  · obtain ⟨c, -, hfound⟩ := Option.map_eq_some_iff.1 hfound
    obtain ⟨rfl, -⟩ := Prod.mk.inj hfound
    cases hkind

/-- Before the beginning of a text its characters are read one by one, and the rest is read from its
    beginning. -/
theorem drain_of_front {l l' : Lexer} {before front : List Char} {tokens : List Token}
    (hsource : l.source = before ++ front) (hposition : l.cursor.position = -(front.length : Int))
    (hdrain : drain { l with
      cursor := l.cursor.walk front
      journal := l.journal ++ (Token.strays l.cursor front).map .invalid } = .ok tokens l') :
    l.drain = .ok (Token.strays l.cursor front ++ tokens) l' := by
  induction front generalizing l before with
  | nil => simpa [Token.strays] using hdrain
  | cons c front ih =>
    rw [List.length_cons] at hposition
    have hoffset : l.source.length + l.cursor.position = before.length := by
      rw [hsource, List.length_append, List.length_cons]
      omega
    have hcharacter : characterAt? { source := l.source } l.cursor.position = some c := by
      rw [characterAt?, if_neg (by omega), hoffset, if_pos (by omega), Int.toNat_natCast, hsource]
      simp
    let stray : Token := ⟨.invalid, String.ofList [c], l.cursor⟩
    let behind : Lexer :=
      { l with cursor := l.cursor.step c, journal := l.journal ++ [.invalid stray] }
    have hnext : l.next = .ok stray behind := by
      rw [next_eq, tokenAt?, if_neg (by omega), hcharacter]
      rfl
    have hstep : behind.cursor.position = -(front.length : Int) := by
      rw [Cursor.position_step]
      omega
    have hrest : behind.drain = .ok (Token.strays behind.cursor front ++ tokens) l' := by
      apply @ih behind (before ++ [c]) (by simpa using hsource) hstep
      simpa [behind, stray, Token.strays] using hdrain
    rw [drain_of_next hnext, if_neg (by simp [stray]), hrest]
    rfl

end Lexer

/-- A step that fails at the grammar alone, if it fails. -/
def Step.Grammatical {α : Type} (step : Step α) : Prop :=
  ∀ fault l, step = .error fault l → ∃ error, fault = .syntactic error

namespace Lexer

/-- All readings of a lexer come to an end. Tokens can always be read, and parsing fails at the
    grammar alone. -/
structure Serves (l : Lexer) : Prop where
  next : ∃ token l', l.next = .ok token l'
  peek : ∃ token, l.peek = .ok token l
  drain : ∃ tokens l', l.drain = .ok tokens l'
  program : Step.Grammatical (Parser.program l)
  statement : Step.Grammatical (Parser.statement l)
  expression : ∀ least, Step.Grammatical (Parser.expression least l)

/-- A lexer reads nothing but the end of input at its cursor, and does not change. -/
structure Ended (l : Lexer) : Prop where
  next : l.next = .ok ⟨.endOfInput, "", l.cursor⟩ l
  peek : l.peek = .ok ⟨.endOfInput, "", l.cursor⟩ l
  drain : l.drain = .ok [] l

/-- A lexer reads each character from its cursor to the end of its text as a stray token that no
    grammar admits, and then the text from its beginning, with lines and columns counted on. -/
structure WrapsAround (l : Lexer) (strays tokens : List Token) (beginning last : Lexer) : Prop where
  drain : l.drain = .ok (strays ++ tokens) last
  length : (strays.length : Int) = -l.cursor.position
  stray : ∀ (i : Nat) (hi : i < strays.length), strays[i].kind = .invalid ∧
    strays[i].start.position = l.cursor.position + i ∧
    ∃ c ∈ l.source[(l.source.length + l.cursor.position).toNat + i]?,
      strays[i].literal = String.ofList [c]
  source : beginning.source = l.source
  position : beginning.cursor.position = 0
  cursor : beginning.cursor =
    l.cursor.walk (l.source.drop (l.source.length + l.cursor.position).toNat)
  rest : beginning.drain = .ok tokens last

/-- Every reading fails before the beginning of the text, and changes nothing. -/
structure Refuses (l : Lexer) : Prop where
  next : l.next = .error (.beforeBeginning l.cursor.position) l
  peek : l.peek = .error (.beforeBeginning l.cursor.position) l
  drain : l.drain = .error (.beforeBeginning l.cursor.position) l
  program : Parser.program l = .error (.beforeBeginning l.cursor.position) l
  statement : Parser.statement l = .error (.beforeBeginning l.cursor.position) l
  expression : ∀ least,
    Parser.expression least l = .error (.beforeBeginning l.cursor.position) l

/-- The contract of a lexer that stands nowhere before the least offset: it fails at the grammar
    alone. -/
def withinContract : Parser.Contract where
  lexer := Within
  token _ := True
  fault f := ∃ error, f = .syntactic error
  next l hwithin := by
    obtain ⟨token, l', hnext⟩ := exists_next hwithin
    rw [hnext]
    exact ⟨trivial, hwithin.next hnext⟩
  unexpected _ _ _ := ⟨_, rfl⟩
  unsupported _ _ := ⟨_, rfl⟩

theorem grammatical_of_kept {α : Type} {answer : α → Prop} {p : Parser α}
    (hkept : withinContract.Kept answer p) {l : Lexer} (hwithin : l.Within) :
    Step.Grammatical (p l) := by
  intro fault l' hstep
  have hsatisfies := hkept l hwithin
  rw [hstep] at hsatisfies
  exact hsatisfies.1

private theorem serves_of_within {l : Lexer} (hwithin : l.Within) : l.Serves := by
  obtain ⟨token, l', hnext⟩ := exists_next hwithin
  obtain ⟨tokens, last, l₁, l₂, hdrain, -⟩ := exists_drain hwithin
  refine ⟨⟨token, l', hnext⟩, ⟨token, peek_eq_ok_iff.2 ⟨⟨l', hnext⟩, rfl⟩⟩, ⟨tokens, l₂, hdrain⟩,
    ?_, ?_, fun least => ?_⟩
  · exact grammatical_of_kept (.program fun _ _ h => h) hwithin
  · exact grammatical_of_kept (.statement fun _ _ h => h) hwithin
  · exact grammatical_of_kept (.expression least) hwithin

private theorem ended_of_length_le {l : Lexer} (hposition : l.source.length ≤ l.cursor.position) :
    l.Ended := by
  have hnothing : l.source.drop l.cursor.position.toNat = [] := by
    rw [List.drop_eq_nil_iff]
    omega
  have hnext : l.next = .ok ⟨.endOfInput, "", l.cursor⟩ l := by
    rw [next_eq, tokenAt?, if_pos (by omega), hnothing,
      Token.scan_of_blank l.cursor (by simp [Text.Blank])]
    simp [complaints]
  refine ⟨hnext, peek_eq_ok_iff.2 ⟨⟨l, hnext⟩, rfl⟩, ?_⟩
  rw [drain_of_next hnext, if_pos rfl]

private theorem wrapsAround_of_negative {l : Lexer} (hwithin : l.Within)
    (hnegative : l.cursor.position < 0) :
    ∃ strays tokens beginning last, l.WrapsAround strays tokens beginning last := by
  rw [Within] at hwithin
  let n := (l.source.length + l.cursor.position).toNat
  have hlength : (l.source.drop n).length = -l.cursor.position := by
    rw [List.length_drop]
    omega
  let strays := Token.strays l.cursor (l.source.drop n)
  let beginning : Lexer := { l with
    cursor := l.cursor.walk (l.source.drop n)
    journal := l.journal ++ strays.map .invalid }
  have hposition : beginning.cursor.position = 0 := by
    rw [Cursor.position_walk]
    omega
  obtain ⟨tokens, -, -, last, hrest, -⟩ := exists_drain (within_of_nonneg hposition.ge)
  have hdrain := drain_of_front (List.take_append_drop n l.source).symm (by omega) hrest
  refine ⟨strays, tokens, beginning, last, hdrain, ?_, ?_, rfl, hposition, rfl, hrest⟩
  · rw [Token.length_strays, hlength]
  · intro i hi
    rw [Token.length_strays] at hi
    rw [Token.getElem_strays]
    refine ⟨rfl, ?_, _, ?_, rfl⟩
    · rw [Cursor.position_walk, List.length_take]
      omega
    · rw [List.getElem_drop]
      exact List.getElem?_eq_getElem _

private theorem refuses_of_lt {l : Lexer}
    (hposition : l.cursor.position < -(l.source.length : Int)) :
    l.Refuses := by
  have hscan : l.scan = .error (.beforeBeginning l.cursor.position) l := by
    rw [scan_eq, tokenAt?, if_neg (by omega), characterAt?, if_neg (by omega),
      if_neg (by simp only; omega)]
    rfl
  have hnext : l.next = .error (.beforeBeginning l.cursor.position) l := by
    rw [next, hscan]
  have hpeek : l.peek = .error (.beforeBeginning l.cursor.position) l := by
    rw [peek, hscan]
  refine ⟨hnext, hpeek, ?_, ?_, ?_, fun least => ?_⟩
  · rw [drain]
    split <;> simp_all
  · simp only [Parser.program, bind, EStateM.bind]
    rw [Parser.statements, hpeek]
  · simp only [Parser.statement, bind, EStateM.bind, hnext]
  · simp only [Parser.expression, Parser.primary, bind, EStateM.bind, hnext]

/-- From a cursor that the text has, also counted from its end, readings end and fail at the grammar
    alone, and a number is read as text that denotes one. Behind the text only its end is read,
    and from a negative offset what lies up to the end of the text and then the text. Before the
    least offset nothing is read. -/
theorem reading_from_any_cursor (l : Lexer) :
    (-l.source.length ≤ l.cursor.position → l.Serves) ∧
    (∀ token l', l.next = .ok token l' → token.kind = .number →
      token.literal.toList ∈ Numeral.plain) ∧
    (l.source.length ≤ l.cursor.position → l.Ended) ∧
    (-l.source.length ≤ l.cursor.position → l.cursor.position < 0 →
      ∃ strays tokens beginning last, l.WrapsAround strays tokens beginning last) ∧
    (l.cursor.position < -l.source.length → l.Refuses) := by
  have hwithin (hposition : -l.source.length ≤ l.cursor.position) : l.Within := by
    rw [Within]
    omega
  refine ⟨fun hposition => serves_of_within (hwithin hposition), fun token l' => literal_mem_plain,
    ended_of_length_le, fun hposition => wrapsAround_of_negative (hwithin hposition), refuses_of_lt⟩

/-- Readings of a letter and a digit from each side of them and from within. -/
theorem reading_around_letter_and_digit :
    let reading (position : Int) : Lexer := ⟨['a', '1'], ⟨position, 3, 5⟩, []⟩
    (reading (-1)).Serves ∧
    ((reading 1).next = .ok ⟨.number, "1", ⟨1, 3, 5⟩⟩ ⟨['a', '1'], ⟨2, 3, 6⟩, []⟩ ∧
      ['1'] ∈ Numeral.plain) ∧
    (reading 2).Ended ∧
    (∃ strays tokens beginning last,
      (reading (-1)).WrapsAround strays tokens beginning last) ∧
    (reading (-3)).Refuses := by
  intro reading
  have hnext :
      (reading 1).next = .ok ⟨.number, "1", ⟨1, 3, 5⟩⟩ ⟨['a', '1'], ⟨2, 3, 6⟩, []⟩ :=
    next_eq_ok_iff.2 ⟨⟨2, 3, 6⟩, by decide +kernel, rfl⟩
  refine ⟨?_, ⟨hnext, ?_⟩, ?_, ?_, ?_⟩
  · exact (reading_from_any_cursor (reading (-1))).1 (by decide)
  · simpa using (reading_from_any_cursor (reading 1)).2.1 _ _ hnext rfl
  · exact (reading_from_any_cursor (reading 2)).2.2.1 (by decide)
  · exact (reading_from_any_cursor (reading (-1))).2.2.2.1 (by decide) (by decide)
  · exact (reading_from_any_cursor (reading (-3))).2.2.2.2 (by decide)

end Lexer

end LetArith
