import LetArith.Proofs.Trace

namespace LetArith

/-- The characters of a text from one offset up to another. -/
def Text.slice (text : List Char) (first stop : Int) : List Char :=
  (text.take stop.toNat).drop first.toNat

/-- Where the lexer of a text stands when so many tokens have been read. -/
def Lexer.reached (text : String) (n : Nat) : Int := ((ofString text).after n).cursor.position

namespace Piece

/-- A character of a text is a blank if and only if it lies in the lexeme of no piece. -/
theorem isBlank_getElem_iff (text : List Char) {k : Nat} (hk : k < text.length) :
    Text.isBlank text[k] ↔
      ∀ (n : Nat) (hn : n < (all text).length),
        ¬ ((front (all text) n ++ (all text)[n].blanks).length ≤ k ∧
          k < (front (all text) (n + 1)).length) := by
  induction text using Piece.induction generalizing k with
  | blank text hblank => simp [all_of_blank hblank, hblank _ (List.getElem_mem hk)]
  | piece blanks lexeme rest hblanks hfirst hsolid ih =>
    simp only [all_append hblanks hfirst hsolid]
    -- The character lies within the blanks of the first piece, within its lexeme, or behind it.
    by_cases hleft : k < blanks.length
    · rw [List.getElem_append_left hleft]
      refine iff_of_true (hblanks _ (List.getElem_mem hleft)) fun n hn hinside => ?_
      have hbehind : blanks.length ≤
          (front (⟨blanks, lexeme⟩ :: all rest) n ++
            (⟨blanks, lexeme⟩ :: all rest)[n].blanks).length := by
        cases n <;> simp [Piece.text]
      omega
    rw [List.getElem_append_right (by omega)]
    by_cases hmiddle : k < blanks.length + lexeme.text.length
    · rw [List.getElem_append_left (by omega), hsolid _ (List.getElem_mem _)]
      refine iff_of_false (by simp) fun houtside => houtside 0 (by simp) ?_
      simp only [front_zero, front_cons_succ, Piece.text, List.getElem_cons_zero,
        List.length_append, List.length_nil]
      omega
    · have hlast : k - blanks.length - lexeme.text.length < rest.length := by
        simp only [List.length_append] at hk
        omega
      rw [List.getElem_append_right (by omega), ih hlast]
      constructor
      · intro houtside n hn hinside
        cases n with
        | zero =>
          simp only [front_zero, front_cons_succ, Piece.text, List.length_append,
            List.length_nil] at hinside
          omega
        | succ n =>
          apply houtside n (by simpa using hn)
          simp only [front_cons_succ, Piece.text, List.getElem_cons_succ, List.length_append]
            at hinside ⊢
          omega
      · intro houtside n hn hinside
        apply houtside (n + 1) (by simpa using hn)
        simp only [front_cons_succ, Piece.text, List.getElem_cons_succ, List.length_append]
          at hinside ⊢
        omega

private theorem filter_isBlank (text : List Char) :
    text.filter (fun c => !Text.isBlank c) = (all text).flatMap (·.lexeme.text) := by
  induction text using Piece.induction with
  | blank text hblank =>
    rw [all_of_blank hblank, List.filter_eq_nil_iff.2 fun c hc => by simp [hblank c hc]]
    rfl
  | piece blanks lexeme rest hblanks hfirst hsolid ih =>
    have hnone : blanks.filter (fun c => !Text.isBlank c) = [] :=
      List.filter_eq_nil_iff.2 fun c hc => by simp [hblanks c hc]
    have hall : lexeme.text.filter (fun c => !Text.isBlank c) = lexeme.text :=
      List.filter_eq_self.2 fun c hc => by simp [hsolid c hc]
    rw [List.filter_append, List.filter_append, hnone, hall, ih, all_append hblanks hfirst hsolid]
    rfl

end Piece

/-- The tokens of a text are those of its pieces, and the token behind them lies at its end. -/
theorem tokens_eq (text : String) :
    tokenize text = .ok (Piece.tokens {} (Piece.all text.toList)) ∧
      tokensToEnd text = .ok (Piece.tokens {} (Piece.all text.toList) ++
        [⟨.endOfInput, "", Cursor.walk {} text.toList⟩]) := by
  obtain ⟨l, hdrain, hlast⟩ := Lexer.drain_eq_tokens (l := Lexer.ofString text) (Int.le_refl 0)
  exact tokens_of_drain hdrain hlast

theorem Lexer.reached_eq {text : String} {n : Nat} (hn : n ≤ (Piece.all text.toList).length) :
    reached text n = (Piece.front (Piece.all text.toList) n).length := by
  rw [reached, cursor_after (l := ofString text) (Int.le_refl 0) hn, Cursor.position_walk]
  exact Int.zero_add _

theorem Text.slice_append {before raw : List Char} (behind : List Char) {first stop : Int}
    (hfirst : first = before.length) (hstop : stop = (before ++ raw).length) :
    slice (before ++ (raw ++ behind)) first stop = raw := by
  rw [slice, hfirst, hstop, Int.toNat_natCast, Int.toNat_natCast, ← List.append_assoc,
    List.take_left, List.drop_left]

theorem Piece.start_eq (text : String) {n : Nat}
    (hn : n < (tokens {} (all text.toList)).length) :
    have hn : n < (all text.toList).length := by simpa using hn
    (tokens {} (all text.toList))[n].start.position =
      (front (all text.toList) n ++ (all text.toList)[n].blanks).length := by
  rw [getElem_tokens, Cursor.position_walk]
  exact Int.zero_add _

theorem Piece.slice_eq (text : String) {n : Nat}
    (hn : n < (tokens {} (all text.toList)).length) :
    have hn : n < (all text.toList).length := by simpa using hn
    Text.slice text.toList (tokens {} (all text.toList))[n].start.position
      (Lexer.reached text (n + 1)) = (all text.toList)[n].lexeme.text := by
  intro hn
  obtain ⟨-, -, behind, htext, -⟩ := exists_behind text.toList hn
  have hstop : Lexer.reached text (n + 1) = (front (all text.toList) n ++
      (all text.toList)[n].blanks ++ (all text.toList)[n].lexeme.text).length := by
    rw [Lexer.reached_eq (Nat.succ_le_of_lt hn), front_succ hn, Piece.text, List.append_assoc]
  have hslice := Text.slice_append behind (start_eq text (by simpa using hn)) hstop
  rwa [List.append_assoc, ← htext] at hslice

/-- How the tokens of a text lie in it, where `reached` tells the place at which each of them
    ends. -/
structure Token.Cover (text : List Char) (tokens : List Token) (reached : Nat → Int) : Prop where
  begins : reached 0 = 0
  ordered : ∀ (i : Nat) (hi : i < tokens.length),
    reached i ≤ tokens[i].start.position ∧ tokens[i].start.position < reached (i + 1)
  ends : reached tokens.length ≤ text.length
  /-- The blanks are the characters outside of all tokens. -/
  isBlank_iff : ∀ (k : Nat) (hk : k < text.length),
    Text.isBlank text[k] ↔ ∀ (i : Nat) (hi : i < tokens.length),
      ¬ (tokens[i].start.position ≤ k ∧ k < reached (i + 1))
  /-- The text of a token is what lies there, and a number lacks its separators. -/
  literal_eq : ∀ (i : Nat) (hi : i < tokens.length),
    tokens[i].literal = String.ofList
      (if tokens[i].kind = .number then
        (Text.slice text tokens[i].start.position (reached (i + 1))).filter (· != '_')
      else Text.slice text tokens[i].start.position (reached (i + 1)))
  /-- Nothing else than blanks is lost. -/
  filter_eq : text.filter (fun c => !Text.isBlank c) =
    tokens.zipIdx.flatMap fun (token, i) => Text.slice text token.start.position (reached (i + 1))

theorem Piece.cover_tokens (text : String) :
    Token.Cover text.toList (tokens {} (all text.toList)) (Lexer.reached text) := by
  have hpieces : (tokens {} (all text.toList)).length = (all text.toList).length :=
    length_tokens _ _
  refine ⟨rfl, ?ordered, ?ends, ?blank, ?literal, ?filter⟩
  case ordered =>
    intro i hi
    obtain ⟨-, -, behind, -, hfirst⟩ := exists_behind text.toList (hpieces ▸ hi)
    have hpositive := List.length_pos_iff.2 (Lexeme.first?_ne_nil hfirst).2
    rw [Lexer.reached_eq (by omega), Lexer.reached_eq (by omega), start_eq text hi,
      front_succ (hpieces ▸ hi)]
    simp only [List.length_append, Piece.text]
    omega
  case ends =>
    obtain ⟨blanks, -, htext⟩ := exists_blanks text.toList
    rw [Lexer.reached_eq (by omega), front, List.take_of_length_le (by omega)]
    have hlength := congrArg List.length htext
    rw [List.length_append] at hlength
    omega
  case blank =>
    intro k hk
    rw [isBlank_getElem_iff text.toList hk]
    constructor
    · intro houtside i hi
      rw [start_eq text hi, Lexer.reached_eq (by omega), Int.ofNat_le, Int.ofNat_lt]
      exact houtside i (by omega)
    · intro houtside i hi
      have hinside := houtside i (by omega)
      rwa [start_eq text (by omega), Lexer.reached_eq (by omega), Int.ofNat_le,
        Int.ofNat_lt] at hinside
  case literal =>
    intro i hi
    rw [slice_eq text hi, getElem_tokens]
    rfl
  case filter =>
    rw [filter_isBlank, List.flatMap_def, List.flatMap_def]
    congr 1
    apply List.ext_getElem
    · simp
    · intro i hi hi'
      simp only [List.getElem_map, List.getElem_zipIdx, Nat.zero_add]
      exact (slice_eq text (by simpa using hi)).symm

/-- Lexing loses no character but blanks and reads none twice: the tokens of a text cover it, and
    the token for the end of input lies at its end. -/
theorem tokens_cover_text (text : String) :
    ∃ (tokens : List Token) (last : Token), tokenize text = .ok tokens ∧
      tokensToEnd text = .ok (tokens ++ [last]) ∧
      (∀ (i : Nat) (hi : i < tokens.length), ((Lexer.ofString text).after i).next =
        .ok tokens[i] ((Lexer.ofString text).after (i + 1))) ∧
      Token.Cover text.toList tokens (Lexer.reached text) ∧
      last.kind = .endOfInput ∧ last.start.position = text.length := by
  obtain ⟨htokenize, htokensToEnd⟩ := tokens_eq text
  refine ⟨_, _, htokenize, htokensToEnd, fun i hi => Lexer.next_after htokenize hi,
    Piece.cover_tokens text, rfl, ?_⟩
  rw [Cursor.position_walk]
  exact (Int.zero_add _).trans (congrArg Nat.cast String.length_toList)

end LetArith
