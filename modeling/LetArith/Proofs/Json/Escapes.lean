import LetArith.Proofs.Json.Grammar
import LetArith.Proofs.Json.Reading
import Mathlib.Tactic.SplitIfs

namespace LetArith.Json

open scoped Computability
open Words

/-- The codes by which a character is written: its own one, or those of its two surrogates. -/
def units (c : Char) : List Nat :=
  if c.toNat < 0x10000 then [c.toNat]
  else [0xD800 + (c.toNat - 0x10000) / 0x400, 0xDC00 + (c.toNat - 0x10000) % 0x400]

private theorem hexValue?_hexDigit {value : Nat} (hvalue : value < 16) :
    hexValue? (Text.hexDigit value) = some value := by
  have hall : ∀ value < 16, hexValue? (Text.hexDigit value) = some value := by decide
  exact hall value hvalue

theorem hexadecimal_four (code : Nat) :
    Text.hexadecimal 4 code =
      [Text.hexDigit (code / 16 / 16 / 16 % 16), Text.hexDigit (code / 16 / 16 % 16),
        Text.hexDigit (code / 16 % 16), Text.hexDigit (code % 16)] := rfl

theorem codes?_escapeUnit_append {code : Nat} (hcode : code < 0x10000) (raw : List Char) :
    codes? (escapeUnit code ++ raw) = (codes? raw).map (code :: ·) := by
  have hdigit (value : Nat) : hexValue? (Text.hexDigit (value % 16)) = some (value % 16) :=
    hexValue?_hexDigit (Nat.mod_lt value (by decide))
  have hsum : ((code / 16 / 16 / 16 % 16 * 16 + code / 16 / 16 % 16) * 16 + code / 16 % 16) * 16 +
      code % 16 = code := by omega
  rw [escapeUnit, hexadecimal_four]
  simp only [List.cons_append, List.nil_append, codes?, hdigit, Option.bind_eq_bind,
    Option.bind_some, hsum]
  cases codes? raw <;> rfl

private theorem codes?_backslash {letter c : Char} (hletter : letter ≠ 'u')
    (hmeant : shortEscapes.lookup letter = some c) (raw : List Char) :
    codes? ('\\' :: letter :: raw) = (codes? raw).map (c.toNat :: ·) := by
  rw [codes?, hmeant]
  · cases codes? raw <;> rfl
  · intro _ _ _ _ _ hu
    exact absurd hu hletter

/-- An escaped character has the codes by which the character is written. -/
theorem codes?_escape_append (c : Char) (raw : List Char) :
    codes? (escape c ++ raw) = (codes? raw).map (units c ++ ·) := by
  obtain hvalid : c.toNat < 0xD800 ∨ 0xDFFF < c.toNat ∧ c.toNat < 0x110000 := c.valid
  unfold escape
  split_ifs with hmark hline hreturn htab hback hfeed hplain hbasic
  · rcases hmark with rfl | rfl
    · exact codes?_backslash (by decide) rfl raw
    · exact codes?_backslash (by decide) rfl raw
  · subst hline
    exact codes?_backslash (by decide) rfl raw
  · subst hreturn
    exact codes?_backslash (by decide) rfl raw
  · subst htab
    exact codes?_backslash (by decide) rfl raw
  · subst hback
    exact codes?_backslash (by decide) rfl raw
  · subst hfeed
    exact codes?_backslash (by decide) rfl raw
  · obtain ⟨hquote, hescape⟩ := not_or.1 hmark
    have hplain' : ¬(c = '"' ∨ c = '\\' ∨ c.toNat < 0x20) := by
      rintro (h | h | h)
      · exact hquote h
      · exact hescape h
      · omega
    rw [List.singleton_append, codes?, if_neg hplain', units, if_pos (by omega)]
    · rfl
    · exact fun _ _ _ _ _ h => absurd h hescape
    · exact fun _ _ h => absurd h hescape
  · rw [codes?_escapeUnit_append hbasic, units, if_pos hbasic]
    rfl
  · rw [List.append_assoc, codes?_escapeUnit_append, codes?_escapeUnit_append, units, if_neg hbasic]
    · cases codes? raw <;> rfl
    · omega
    · omega

private theorem codes?_flatMap_escape (text : List Char) :
    codes? (text.flatMap escape) = some (text.flatMap units) := by
  induction text with
  | nil => rfl
  | cons c text ih => rw [List.flatMap_cons, codes?_escape_append, ih]; rfl

/-- The codes by which a character is written are those of the character. -/
theorem scalars?_units_append (c : Char) (codes : List Nat) :
    scalars? (units c ++ codes) = (scalars? codes).map (c :: ·) := by
  obtain hvalid : c.toNat < 0xD800 ∨ 0xDFFF < c.toNat ∧ c.toNat < 0x110000 := c.valid
  have hself : c.toNat.isValidChar := c.valid
  have hscalar : scalar? c.toNat = some c := by rw [scalar?, if_pos hself, Char.ofNat_toNat]
  unfold units
  split_ifs with hbasic
  · cases codes with
    | nil => simp [scalars?, hscalar]
    | cons next codes =>
      have hsingle : ¬((0xD800 ≤ c.toNat ∧ c.toNat < 0xDC00) ∧ 0xDC00 ≤ next ∧ next < 0xE000) := by
        omega
      rw [List.singleton_append, scalars?, if_neg hsingle, hscalar]
      cases scalars? (next :: codes) <;> rfl
  · have hpair : (0xD800 ≤ 0xD800 + (c.toNat - 0x10000) / 0x400 ∧
        0xD800 + (c.toNat - 0x10000) / 0x400 < 0xDC00) ∧
        0xDC00 ≤ 0xDC00 + (c.toNat - 0x10000) % 0x400 ∧
        0xDC00 + (c.toNat - 0x10000) % 0x400 < 0xE000 := by
      omega
    have hcode : 0x10000 + (0xD800 + (c.toNat - 0x10000) / 0x400 - 0xD800) * 0x400 +
        (0xDC00 + (c.toNat - 0x10000) % 0x400 - 0xDC00) = c.toNat := by
      omega
    rw [List.cons_append, List.cons_append, List.nil_append, scalars?, if_pos hpair, hcode,
      Char.ofNat_toNat]

private theorem scalars?_flatMap_units (text : List Char) :
    scalars? (text.flatMap units) = some text := by
  induction text with
  | nil => rfl
  | cons c text ih => rw [List.flatMap_cons, scalars?_units_append, ih]; rfl

/-- A text between quotation marks denotes the text that it was written for. -/
theorem quoteDenotes_quoted (value : String) : QuoteDenotes (quoted value).toList value := by
  refine ⟨value.toList.flatMap escape, by simp [quoted], ?_⟩
  simp [unescape?, codes?_flatMap_escape, scalars?_flatMap_units]

private theorem hexDigit_mem {value : Nat} (hvalue : value < 16) :
    [Text.hexDigit value] ∈ Grammar.hexDigit := by
  have hall : ∀ value < 16, (Text.hexDigit value).isDigit ∨
      ('a' ≤ Text.hexDigit value ∧ Text.hexDigit value ≤ 'f') ∨
      'A' ≤ Text.hexDigit value ∧ Text.hexDigit value ≤ 'F' := by decide
  exact ⟨_, hall value hvalue, rfl⟩

private theorem escapeUnit_mem (code : Nat) : escapeUnit code ∈ Grammar.character := by
  have hdigit (value : Nat) : [Text.hexDigit (value % 16)] ∈ Grammar.hexDigit :=
    hexDigit_mem (Nat.mod_lt value (by decide))
  rw [escapeUnit, hexadecimal_four]
  refine .inr (Language.append_mem_mul (a := ['\\']) (singleton_mem_single _) (.inr ?_))
  refine Language.append_mem_mul (a := ['u']) (singleton_mem_single _) ?_
  exact Language.append_mem_mul (hdigit _) (Language.append_mem_mul (hdigit _)
    (Language.append_mem_mul (hdigit _) (hdigit _)))

private theorem backslash_mem {letter : Char}
    (hletter : letter ∈ ['"', '\\', '/', 'b', 'f', 'n', 'r', 't']) :
    ['\\', letter] ∈ Grammar.character :=
  .inr (Language.append_mem_mul (a := ['\\']) (singleton_mem_single _)
    (.inl ⟨letter, hletter, rfl⟩))

/-- An escaped character is one or two characters of a quoted text. -/
theorem escape_mem (c : Char) : escape c ∈ Grammar.character∗ := by
  have hone : Grammar.character ≤ Grammar.character∗ := le_kstar
  unfold escape
  split_ifs with hmark hline hreturn htab hback hfeed hplain hbasic
  · rcases hmark with rfl | rfl <;> exact hone (backslash_mem (by decide))
  · exact hone (backslash_mem (by decide))
  · exact hone (backslash_mem (by decide))
  · exact hone (backslash_mem (by decide))
  · exact hone (backslash_mem (by decide))
  · exact hone (backslash_mem (by decide))
  · obtain ⟨hquote, hescape⟩ := not_or.1 hmark
    exact hone (.inl ⟨c, ⟨hplain.1, hquote, hescape⟩, rfl⟩)
  · exact hone (escapeUnit_mem _)
  · rw [← kstar_mul_kstar]
    exact Language.append_mem_mul (hone (escapeUnit_mem _)) (hone (escapeUnit_mem _))

/-- A text between quotation marks is a quoted text of the grammar. -/
theorem quoted_mem_quote (value : String) : (quoted value).toList ∈ Grammar.quote := by
  have hinside (text : List Char) : text.flatMap escape ∈ Grammar.character∗ := by
    induction text with
    | nil => exact Language.nil_mem_kstar _
    | cons c text ih =>
      rw [List.flatMap_cons, ← kstar_mul_kstar]
      exact Language.append_mem_mul (escape_mem c) ih
  rw [quoted, String.toList_ofList, List.cons_append]
  exact Language.append_mem_mul (a := ['"']) (singleton_mem_single _)
    (Language.append_mem_mul (hinside value.toList) (singleton_mem_single _))

end LetArith.Json
