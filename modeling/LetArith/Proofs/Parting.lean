import LetArith.Proofs.Boundary
import LetArith.Proofs.Relocation
import LetArith.Proofs.Supply

namespace LetArith

/-- Where a cursor of a text stands when the text comes right behind another one. -/
def Cursor.behind (before : List Char) (cursor : Cursor) : Cursor :=
  ⟨cursor.position + before.length, (cursor.location.behind before).line,
    (cursor.location.behind before).column⟩

/-- A token of a text that comes right behind another one. -/
def Token.behind (before : List Char) (token : Token) : Token :=
  { token with start := token.start.behind before }

theorem Cursor.relocate_eq_behind (before : List Char) (cursor : Cursor) :
    (walk {} before).relocate cursor = cursor.behind before := by
  rw [relocate, behind, relocate_location_walk, position_walk]
  simp [Int.add_comm]

theorem Token.relocate_eq_behind (before : List Char) :
    relocate (Cursor.walk {} before) = behind before := by
  funext token
  rw [relocate, behind, Cursor.relocate_eq_behind]

/-- The tokens of a text that is parted by a blank are those of the one part and then those of the
    other one, behind the first part and the blank. -/
theorem Piece.tokens_all_append_blank (text more : List Char) {blank : Char}
    (hblank : Text.isBlank blank) :
    tokens {} (all (text ++ blank :: more)) =
      tokens {} (all text) ++ (tokens {} (all more)).map (Token.behind (text ++ [blank])) := by
  have hhead : ∀ c ∈ (blank :: more).head?, Text.isBlank c := by
    rintro _ ⟨⟩
    exact hblank
  have hbehind : tokens (Cursor.walk {} text) (all (blank :: more)) =
      tokens (Cursor.walk {} (text ++ [blank])) (all more) := by
    rw [Cursor.walk_append]
    exact tokens_all_blanks _ (List.forall_mem_singleton.2 hblank) more
  rw [tokens_all_append {} text hhead, hbehind,
    tokens_eq_map_relocate (Cursor.walk {} (text ++ [blank])), Token.relocate_eq_behind]

/-- A blank parts a text for good, whatever comes before and behind it: the tokens are those of the
    two parts, the ones behind the blank at the places where they come there, and the complaints are
    about the same tokens in the same order. -/
theorem drain_append_blank (text more : String) {blank : Char} (hblank : Text.isBlank blank) :
    let before := text.toList ++ [blank]
    ∃ tokens others l₁ l₂ l,
      (Lexer.ofString text).drain = .ok tokens l₁ ∧
      (Lexer.ofString more).drain = .ok others l₂ ∧
      (Lexer.ofString (text ++ String.singleton blank ++ more)).drain =
        .ok (tokens ++ others.map (Token.behind before)) l ∧
      l₂.diagnostics = (others.filter (·.kind = .invalid)).map Event.complaint ∧
      l.diagnostics = l₁.diagnostics ++
        ((others.filter (·.kind = .invalid)).map (Token.behind before)).map Event.complaint := by
  intro before
  let whole := text ++ String.singleton blank ++ more
  have hwhole : whole.toList = text.toList ++ blank :: more.toList := by
    simp [whole]
  obtain ⟨l₁, hfirst, -⟩ := Lexer.drain_eq_tokens (l := Lexer.ofString text) (Int.le_refl 0)
  obtain ⟨l₂, hsecond, -⟩ := Lexer.drain_eq_tokens (l := Lexer.ofString more) (Int.le_refl 0)
  obtain ⟨l, hdrain, -⟩ := Lexer.drain_eq_tokens (l := Lexer.ofString whole) (Int.le_refl 0)
  have hboth : (Lexer.ofString whole).drain = .ok (Piece.tokens {} (Piece.all text.toList) ++
      (Piece.tokens {} (Piece.all more.toList)).map (Token.behind before)) l := by
    rw [← Piece.tokens_all_append_blank text.toList more.toList hblank, ← hwhole]
    exact hdrain
  refine ⟨_, _, l₁, l₂, l, hfirst, hsecond, hboth, ?_, ?_⟩
  · exact Lexer.diagnostics_of_drain (Lexer.within_ofString more) hsecond
  · rw [Lexer.diagnostics_of_drain (Lexer.within_ofString whole) hboth,
      Lexer.diagnostics_of_drain (Lexer.within_ofString text) hfirst, List.filter_append,
      List.map_append, List.filter_map]
    rfl

/-- A number that ends with a separator, and a stray character behind a line feed. -/
theorem drain_append_blank_of_line_feed :
    let before := "1_".toList ++ ['\n']
    Text.isBlank '\n' ∧ ∃ tokens others l₁ l₂ l,
      (Lexer.ofString "1_").drain = .ok tokens l₁ ∧
      (Lexer.ofString " ?2").drain = .ok others l₂ ∧
      (Lexer.ofString "1_\n ?2").drain = .ok (tokens ++ others.map (Token.behind before)) l ∧
      l₂.diagnostics = (others.filter (·.kind = .invalid)).map Event.complaint ∧
      l.diagnostics = l₁.diagnostics ++
        ((others.filter (·.kind = .invalid)).map (Token.behind before)).map Event.complaint := by
  have hblank : Text.isBlank '\n' := by decide +kernel
  exact ⟨hblank, drain_append_blank "1_" " ?2" hblank⟩

end LetArith
