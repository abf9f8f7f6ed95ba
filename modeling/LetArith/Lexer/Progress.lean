import LetArith.Lexer

namespace LetArith

/-- A lexeme holds a character at least, and so does the text that it begins. -/
theorem Lexeme.first?_ne_nil {text : List Char} {lexeme : Lexeme}
    (h : Lexeme.first? text = some lexeme) : text ≠ [] ∧ lexeme.text ≠ [] := by
  cases text with
  | nil => simp [first?] at h
  | cons c rest =>
    refine ⟨by simp, ?_⟩
    simp only [first?] at h
    split at h
    · simp only [Option.some.injEq] at h
      simp [← h]
    · split at h
      · next hletter =>
        simp only [Option.some.injEq] at h
        simp [← h, List.takeWhile, hletter]
      · split at h
        · next hdigit =>
          simp only [Option.some.injEq] at h
          simp [← h, numeral, numeralAfter, hdigit]
        · simp only [Option.some.injEq] at h
          simp [← h]

/-- Scanning never moves the cursor back. -/
theorem Token.le_position_scan (cursor : Cursor) (text : List Char) :
    cursor.position ≤ (Token.scan cursor text).2.position := by
  unfold Token.scan
  simp only
  split <;> simp only [Cursor.position_walk] <;> omega

/-- A token other than the one for the end of input is read from a text that is not empty, and
    moves the cursor on. -/
theorem Token.lt_position_scan {cursor : Cursor} {text : List Char}
    (h : (Token.scan cursor text).1.kind ≠ .endOfInput) :
    text ≠ [] ∧ cursor.position < (Token.scan cursor text).2.position := by
  unfold Token.scan at h ⊢
  simp only at h ⊢
  split at h
  · simp at h
  · next lexeme hfirst =>
    obtain ⟨hdropped, htext⟩ := Lexeme.first?_ne_nil hfirst
    have hlength := List.length_pos_iff.2 htext
    refine ⟨?_, ?_⟩
    · rintro rfl
      simp at hdropped
    · simp only [Cursor.position_walk]
      omega

namespace Lexer

@[simp] theorem remaining_note (l : Lexer) (event : Event) :
    (l.note event).remaining = l.remaining := rfl

/-- A character that was consumed lay before the end of the text. -/
theorem remaining_advance {l l' : Lexer} {c : Char} (h : l.advance = .ok c l') :
    l'.remaining < l.remaining := by
  unfold advance at h
  split at h
  · simp at h
  · next hend =>
    split at h
    · simp only [EStateM.Result.ok.injEq] at h
      obtain ⟨-, rfl⟩ := h
      simp only [atEnd, decide_eq_true_eq] at hend
      simp only [remaining, Cursor.position_step]
      omega
    · simp at h

theorem remaining_scan_le (l : Lexer) : (l.scan).lexer.remaining ≤ l.remaining := by
  unfold scan
  split
  · have := Token.le_position_scan l.cursor l.rest
    simp only [Step.lexer, remaining]
    omega
  · split
    · next c l' hadvance => exact Nat.le_of_lt (remaining_advance hadvance)
    · next fault l' hadvance =>
      unfold advance at hadvance
      split at hadvance
      · simp only [EStateM.Result.error.injEq] at hadvance
        simp [Step.lexer, hadvance.2]
      · split at hadvance
        · simp at hadvance
        · simp only [EStateM.Result.error.injEq] at hadvance
          simp [Step.lexer, hadvance.2]

theorem remaining_scan_lt {l l' : Lexer} {token : Token} (h : l.scan = .ok token l')
    (hkind : token.kind ≠ .endOfInput) : l'.remaining < l.remaining := by
  unfold scan at h
  split at h
  · next hposition =>
    simp only [EStateM.Result.ok.injEq] at h
    obtain ⟨rfl, rfl⟩ := h
    obtain ⟨hrest, hlt⟩ := Token.lt_position_scan hkind
    have hinside : l.cursor.position < l.source.length := by
      simp only [rest, hposition, ↓reduceIte, ne_eq, List.drop_eq_nil_iff, Nat.not_le] at hrest
      omega
    simp only [remaining]
    omega
  · split at h
    · next c l'' hadvance =>
      simp only [EStateM.Result.ok.injEq] at h
      obtain ⟨-, rfl⟩ := h
      exact remaining_advance hadvance
    · simp at h

/-- Reading a token never moves the cursor back. -/
theorem remaining_next_le (l : Lexer) : (l.next).lexer.remaining ≤ l.remaining := by
  have h := remaining_scan_le l
  unfold next
  split
  · next hscan =>
    rw [hscan] at h
    simp only [Step.lexer] at h ⊢
    split <;> simpa using h
  · next hscan =>
    rw [hscan] at h
    exact h

/-- A token other than the one for the end of input moves the cursor on. -/
theorem remaining_next_lt {l l' : Lexer} {token : Token} (h : l.next = .ok token l')
    (hkind : token.kind ≠ .endOfInput) : l'.remaining < l.remaining := by
  unfold next at h
  split at h
  · next hscan =>
    simp only [EStateM.Result.ok.injEq] at h
    obtain ⟨rfl, rfl⟩ := h
    have hlt := remaining_scan_lt hscan hkind
    split <;> simpa using hlt
  · simp at h

/-- Reads all tokens up to the end of the text, and the one for the end of input with them. -/
def drain (l : Lexer) : Step (List Token) :=
  match _ : l.next with
  | .error fault l' => .error fault l'
  | .ok token l' =>
    if _ : token.kind = .endOfInput then .ok [] l'
    else
      match drain l' with
      | .ok tokens l'' => .ok (token :: tokens) l''
      | .error fault l'' => .error fault l''
termination_by l.remaining
decreasing_by exact remaining_next_lt ‹_› ‹_›

end Lexer

end LetArith
