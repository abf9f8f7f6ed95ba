import LetArith.Parser
import LetArith.Proofs.Lexeme

namespace LetArith

namespace Lexer

/-- The token at a cursor of a text, and the cursor behind it. There is none before the least
    offset that counts from the end of the text. -/
def tokenAt? (source : List Char) (cursor : Cursor) : Option (Token × Cursor) :=
  if 0 ≤ cursor.position then some (Token.scan cursor (source.drop cursor.position.toNat))
  else
    (characterAt? { source := source } cursor.position).map fun c =>
      (⟨.invalid, String.ofList [c], cursor⟩, cursor.step c)

theorem tokenAt?_eq_scan {l : Lexer} (hposition : 0 ≤ l.cursor.position) :
    tokenAt? l.source l.cursor = some (Token.scan l.cursor l.rest) := by
  rw [tokenAt?, rest, if_pos hposition, if_pos hposition]

/-- Scanning depends on the text and the cursor only, and changes nothing but the cursor. -/
theorem scan_eq (l : Lexer) :
    l.scan =
      match tokenAt? l.source l.cursor with
      | some (token, cursor) => .ok token { l with cursor := cursor }
      | none => .error (.beforeBeginning l.cursor.position) l := by
  unfold scan tokenAt?
  by_cases hposition : 0 ≤ l.cursor.position
  · simp only [if_pos hposition, rest]
  · have hend : l.atEnd = false := by
      simp only [atEnd, decide_eq_false_iff_not]
      omega
    have hcharacter : l.characterAt? l.cursor.position =
        characterAt? { source := l.source } l.cursor.position := rfl
    simp only [if_neg hposition, advance, hend, hcharacter, Bool.false_eq_true, if_false]
    cases characterAt? { source := l.source } l.cursor.position <;> rfl

/-- What reading a token notes: the token, if no grammar admits it. -/
def complaints (token : Token) : List Event :=
  if token.kind = .invalid then [.invalid token] else []

theorem next_eq (l : Lexer) :
    l.next =
      match tokenAt? l.source l.cursor with
      | some (token, cursor) =>
        .ok token { l with cursor := cursor, journal := l.journal ++ complaints token }
      | none => .error (.beforeBeginning l.cursor.position) l := by
  rw [next, scan_eq]
  cases tokenAt? l.source l.cursor with
  | none => rfl
  | some found =>
    simp only [complaints, note]
    split <;> simp

theorem next_eq_ok_iff {l l' : Lexer} {token : Token} :
    l.next = .ok token l' ↔ ∃ cursor, tokenAt? l.source l.cursor = some (token, cursor) ∧
      l' = { l with cursor := cursor, journal := l.journal ++ complaints token } := by
  rw [next_eq]
  cases tokenAt? l.source l.cursor with
  | none => simp
  | some found =>
    obtain ⟨found, cursor⟩ := found
    simp only [EStateM.Result.ok.injEq, Option.some.injEq, Prod.mk.injEq]
    constructor
    · rintro ⟨rfl, rfl⟩
      exact ⟨cursor, ⟨rfl, rfl⟩, rfl⟩
    · rintro ⟨cursor, ⟨rfl, rfl⟩, rfl⟩
      exact ⟨rfl, rfl⟩

theorem peek_eq (l : Lexer) :
    l.peek =
      match l.next with
      | .ok token _ => .ok token l
      | .error fault _ => .error fault l := by
  rw [peek, next]
  cases l.scan <;> rfl

theorem peek_eq_ok_iff {l l' : Lexer} {token : Token} :
    l.peek = .ok token l' ↔ (∃ behind, l.next = .ok token behind) ∧ l' = l := by
  simp only [next_eq_ok_iff]
  rw [peek, scan_eq]
  cases tokenAt? l.source l.cursor with
  | none => simp
  | some found =>
    obtain ⟨found, cursor⟩ := found
    simp only [EStateM.Result.ok.injEq, Option.some.injEq, Prod.mk.injEq]
    constructor
    · rintro ⟨rfl, rfl⟩
      exact ⟨⟨_, cursor, ⟨rfl, rfl⟩, rfl⟩, rfl⟩
    · rintro ⟨⟨behind, cursor, ⟨rfl, rfl⟩, -⟩, rfl⟩
      exact ⟨rfl, rfl⟩

/-- The cursor lies nowhere before the least offset that counts from the end of the text. From such
    a place every character, and so every token, can be read. -/
def Within (l : Lexer) : Prop := 0 ≤ l.source.length + l.cursor.position

theorem within_of_nonneg {l : Lexer} (h : 0 ≤ l.cursor.position) : l.Within := by
  unfold Within
  omega

theorem ofString_ofList (text : List Char) :
    ofString (String.ofList text) = { source := text } := by
  rw [ofString, String.toList_ofList]

theorem within_ofString (text : String) : (ofString text).Within :=
  within_of_nonneg (Int.le_refl 0)

theorem exists_next {l : Lexer} (hwithin : l.Within) : ∃ token l', l.next = .ok token l' := by
  rw [next_eq, tokenAt?]
  by_cases hposition : 0 ≤ l.cursor.position
  · rw [if_pos hposition]
    exact ⟨_, _, rfl⟩
  · unfold Within at hwithin
    have hinside : (l.source.length + l.cursor.position).toNat < l.source.length := by omega
    simp only [if_neg hposition, characterAt?, if_pos hwithin, List.getElem?_eq_getElem hinside]
    exact ⟨_, _, rfl⟩

theorem position_le_of_next {l l' : Lexer} {token : Token} (h : l.next = .ok token l') :
    l.cursor.position ≤ l'.cursor.position := by
  obtain ⟨cursor, hfound, rfl⟩ := next_eq_ok_iff.1 h
  unfold tokenAt? at hfound
  split at hfound
  · have hle := Token.le_position_scan l.cursor (l.source.drop l.cursor.position.toNat)
    rw [Option.some.inj hfound] at hle
    exact hle
  · obtain ⟨c, -, hfound⟩ := Option.map_eq_some_iff.1 hfound
    obtain ⟨-, rfl⟩ := Prod.mk.inj hfound
    simp only [Cursor.position_step]
    omega

theorem Within.next {l l' : Lexer} {token : Token} (hwithin : l.Within)
    (h : l.next = .ok token l') : l'.Within := by
  have hle := position_le_of_next h
  obtain ⟨cursor, -, rfl⟩ := next_eq_ok_iff.1 h
  unfold Within at hwithin ⊢
  simp only at hle ⊢
  omega

/-- Behind the token for the end of input the same token is read again, and nothing changes any
    more. -/
theorem next_of_endOfInput {l l' : Lexer} {token : Token} (h : l.next = .ok token l')
    (hkind : token.kind = .endOfInput) : l'.next = .ok token l' := by
  obtain ⟨cursor, hfound, rfl⟩ := next_eq_ok_iff.1 h
  have hcomplaints : complaints token = [] := by simp [complaints, hkind]
  refine next_eq_ok_iff.2 ⟨cursor, ?_, by simp [hcomplaints]⟩
  unfold tokenAt? at hfound ⊢
  split at hfound
  · next hposition =>
    rw [Option.some.injEq, Token.scan] at hfound
    cases hfirst : Lexeme.first?
        ((l.source.drop l.cursor.position.toNat).dropWhile Text.isBlank) with
    | some lexeme =>
      simp only [hfirst, Prod.mk.injEq] at hfound
      obtain ⟨rfl, -⟩ := hfound
      exact absurd hkind (Lexeme.kind_ne_endOfInput hfirst)
    | none =>
      simp only [hfirst, Prod.mk.injEq] at hfound
      obtain ⟨rfl, rfl⟩ := hfound
      -- Only blanks were left, so the cursor now stands at the end of the text or behind it.
      have hblank := Lexeme.first?_eq_none_iff.1 hfirst
      have htaken : (l.source.drop l.cursor.position.toNat).takeWhile Text.isBlank =
          l.source.drop l.cursor.position.toNat := by
        have happend := List.takeWhile_append_dropWhile (p := Text.isBlank)
          (l := l.source.drop l.cursor.position.toNat)
        rwa [hblank, List.append_nil] at happend
      rw [htaken]
      have hbehind : l.source.drop
          (l.cursor.walk (l.source.drop l.cursor.position.toNat)).position.toNat = [] := by
        rw [List.drop_eq_nil_iff, Cursor.position_walk, List.length_drop]
        omega
      rw [if_pos (by rw [Cursor.position_walk]; omega), hbehind]
      rfl
  · obtain ⟨c, -, hfound⟩ := Option.map_eq_some_iff.1 hfound
    obtain ⟨rfl, -⟩ := Prod.mk.inj hfound
    cases hkind

/-- Two lexers at the same place of the same text with the same complaints. They differ at most in
    what parsers noted. -/
structure Alike (l m : Lexer) : Prop where
  source : l.source = m.source
  cursor : l.cursor = m.cursor
  diagnostics : l.diagnostics = m.diagnostics

namespace Alike

theorem refl (l : Lexer) : Alike l l := ⟨rfl, rfl, rfl⟩

theorem symm {l m : Lexer} (h : Alike l m) : Alike m l :=
  ⟨h.source.symm, h.cursor.symm, h.diagnostics.symm⟩

theorem trans {l m n : Lexer} (h : Alike l m) (h' : Alike m n) : Alike l n :=
  ⟨h.source.trans h'.source, h.cursor.trans h'.cursor, h.diagnostics.trans h'.diagnostics⟩

theorem within {l m : Lexer} (h : Alike l m) (hwithin : l.Within) : m.Within := by
  unfold Within at hwithin ⊢
  rwa [← h.source, ← h.cursor]

theorem note (l : Lexer) (event : Event) (hevent : event.complaint? = none) :
    Alike l (l.note event) := by
  refine ⟨rfl, rfl, ?_⟩
  simp [Lexer.diagnostics, Lexer.note, hevent]

theorem next {l m l' : Lexer} {token : Token} (h : Alike l m) (hnext : l.next = .ok token l') :
    ∃ m', m.next = .ok token m' ∧ Alike l' m' := by
  obtain ⟨cursor, hfound, rfl⟩ := next_eq_ok_iff.1 hnext
  rw [h.source, h.cursor] at hfound
  refine ⟨_, next_eq_ok_iff.2 ⟨cursor, hfound, rfl⟩, h.source, rfl, ?_⟩
  have hdiagnostics := h.diagnostics
  simp only [Lexer.diagnostics, List.filterMap_append] at hdiagnostics ⊢
  rw [hdiagnostics]

end Alike

/-- The tokens that successive steps read. The lexer behind them is known up to likeness. -/
inductive Reads : Lexer → List Token → Lexer → Prop
  | nil {l l' : Lexer} (halike : Alike l l') : Reads l [] l'
  | cons {l l₁ l₂ : Lexer} {token : Token} {tokens : List Token}
      (hnext : l.next = .ok token l₁) (htail : Reads l₁ tokens l₂) : Reads l (token :: tokens) l₂

namespace Reads

theorem one {l l' : Lexer} {token : Token} (h : l.next = .ok token l') : Reads l [token] l' :=
  .cons h (.nil (.refl l'))

theorem of_alike {l m m' : Lexer} {tokens : List Token} (halike : Alike l m)
    (h : Reads m tokens m') : Reads l tokens m' := by
  induction h generalizing l with
  | nil h => exact .nil (halike.trans h)
  | cons hnext _ ih =>
    obtain ⟨l₁, hnext, halike⟩ := halike.symm.next hnext
    exact .cons hnext (ih halike.symm)

theorem append {l l₁ l₂ : Lexer} {before after : List Token} (h : Reads l before l₁)
    (h' : Reads l₁ after l₂) : Reads l (before ++ after) l₂ := by
  induction h with
  | nil halike => exact of_alike halike h'
  | cons hnext _ ih => exact .cons hnext (ih h')

theorem snoc {l l₁ l₂ : Lexer} {before : List Token} {token : Token} (h : Reads l before l₁)
    (hnext : l₁.next = .ok token l₂) : Reads l (before ++ [token]) l₂ :=
  h.append (.one hnext)

theorem within {l l' : Lexer} {tokens : List Token} (h : Reads l tokens l')
    (hwithin : l.Within) : l'.Within := by
  induction h with
  | nil halike => exact halike.within hwithin
  | cons hnext _ ih => exact ih (hwithin.next hnext)

/-- Of two readings from alike lexers the longer one goes on where the shorter one ends. -/
theorem split {l m l' m' : Lexer} {tokens more : List Token} (h : Reads l tokens l')
    (halike : Alike l m) (h' : Reads m more m') (hlength : tokens.length ≤ more.length) :
    ∃ rest, more = tokens ++ rest ∧ Reads l' rest m' := by
  induction h generalizing m more with
  | nil halike' => exact ⟨more, rfl, of_alike (halike'.symm.trans halike) h'⟩
  | @cons l l₁ l₂ token tokens hnext _ ih =>
    cases h' with
    | nil => simp at hlength
    | cons hnext' htail' =>
      obtain ⟨l₁', hsame, halike₁⟩ := halike.symm.next hnext'
      rw [hnext] at hsame
      obtain ⟨rfl, rfl⟩ := EStateM.Result.ok.inj hsame
      obtain ⟨rest, rfl, hrest⟩ := ih halike₁.symm htail' (by simpa using hlength)
      exact ⟨rest, rfl, hrest⟩

/-- A reading up to the end of the text is the longest one that takes no token for the end of
    input. -/
theorem eq_of_length_le {l l₁ l₂ m₁ : Lexer} {tokens more : List Token} {last : Token}
    (h : Reads l tokens l₁) (hlast : l₁.next = .ok last l₂) (hend : last.kind = .endOfInput)
    (h' : Reads l more m₁) (hinside : ∀ token ∈ more, token.kind ≠ .endOfInput)
    (hlength : tokens.length ≤ more.length) : tokens = more := by
  obtain ⟨rest, rfl, hrest⟩ := h.split (.refl l) h' hlength
  cases hrest with
  | nil => simp
  | cons hnext =>
    rw [hlast] at hnext
    obtain ⟨rfl, -⟩ := EStateM.Result.ok.inj hnext
    exact absurd hend (hinside last (by simp))

end Reads

theorem drain_of_next {l l' : Lexer} {token : Token} (h : l.next = .ok token l') :
    l.drain =
      if token.kind = .endOfInput then .ok [] l'
      else
        match l'.drain with
        | .ok tokens l'' => .ok (token :: tokens) l''
        | .error fault l'' => .error fault l'' := by
  rw [drain]
  split
  · next hnext =>
    rw [h] at hnext
    cases hnext
  · next hnext =>
    rw [h] at hnext
    obtain ⟨rfl, rfl⟩ := EStateM.Result.ok.inj hnext
    rfl

/-- Draining a lexer reads all tokens up to the one for the end of input, and that one, too. -/
theorem exists_drain {l : Lexer} (hwithin : l.Within) :
    ∃ tokens last l₁ l', l.drain = .ok tokens l' ∧ Reads l tokens l₁ ∧ l₁.next = .ok last l' ∧
      last.kind = .endOfInput ∧ ∀ token ∈ tokens, token.kind ≠ .endOfInput := by
  induction hremaining : l.remaining using Nat.strongRecOn generalizing l with
  | _ n ih =>
    obtain ⟨token, l₁, hnext⟩ := exists_next hwithin
    rw [drain_of_next hnext]
    by_cases hkind : token.kind = .endOfInput
    · rw [if_pos hkind]
      exact ⟨[], token, l, l₁, rfl, .nil (.refl l), hnext, hkind, by simp⟩
    · have hlt := remaining_next_lt hnext hkind
      obtain ⟨tokens, last, l₂, l', hdrain, hreads, hlast, hend, hinside⟩ :=
        ih l₁.remaining (by omega) (hwithin.next hnext) rfl
      rw [if_neg hkind, hdrain]
      refine ⟨token :: tokens, last, l₂, l', rfl, .cons hnext hreads, hlast, hend, ?_⟩
      simpa using ⟨hkind, hinside⟩

end Lexer

/-- The tokens of a text, with the one for the end of input behind them. -/
def tokensToEnd (text : String) : Except Fault (List Token) :=
  let reading : Parser (List Token) := do
    let tokens ← Lexer.drain
    let last ← Lexer.next
    pure (tokens ++ [last])
  Step.toExcept (reading (Lexer.ofString text))

theorem tokens_of_drain {text : String} {tokens : List Token} {last : Token} {l l' : Lexer}
    (hdrain : (Lexer.ofString text).drain = .ok tokens l) (hlast : l.next = .ok last l') :
    tokenize text = .ok tokens ∧ tokensToEnd text = .ok (tokens ++ [last]) := by
  constructor
  · rw [tokenize, hdrain]
    rfl
  · simp only [tokensToEnd, bind, EStateM.bind, hdrain, hlast]
    rfl

end LetArith
