import LetArith.Cursor
import Mathlib.Data.List.DropRight
import Mathlib.Data.Prod.Lex

namespace LetArith

/-- The offset at which the last line of a text begins: right behind the last line feed. -/
def Text.lastLine (text : List Char) : Nat := (text.rdropWhile (· != '\n')).length

theorem Text.lastLine_concat (text : List Char) (c : Char) :
    lastLine (text ++ [c]) = if c = '\n' then text.length + 1 else lastLine text := by
  unfold lastLine
  split
  · next hfeed => rw [List.rdropWhile_concat_neg _ _ _ (by simp [hfeed]), List.length_append,
      List.length_singleton]
  · next hother => rw [List.rdropWhile_concat_pos _ _ _ (by simp [hother])]

/-- A line and a column as a pair in lexicographic order. -/
def Location.key (location : Location) : Int ×ₗ Int := toLex (location.line, location.column)

namespace Cursor

/-- A cursor lies in a text, and its line and its column are those of its offset there. -/
structure Placed (cursor : Cursor) (text : List Char) : Prop where
  nonneg : 0 ≤ cursor.position
  le_length : cursor.position ≤ text.length
  line : cursor.line = 1 + (text.take cursor.position.toNat).count '\n'
  column : cursor.column = 1 + cursor.position - Text.lastLine (text.take cursor.position.toNat)

/-- A cursor has walked over a beginning of a text. -/
def Reached (cursor : Cursor) (text : List Char) : Prop :=
  ∃ before, before <+: text ∧ cursor = walk {} before

theorem walk_beginning (before : List Char) :
    walk {} before =
      ⟨before.length, 1 + before.count '\n', 1 + before.length - Text.lastLine before⟩ := by
  induction before using List.reverseRecOn with
  | nil => rfl
  | append_singleton before c ih =>
    rw [walk_append, ih, walk_cons, walk_nil, step, Text.lastLine_concat, List.length_append,
      List.count_append, List.length_singleton]
    split
    · next hfeed =>
      simp only [hfeed, List.count_singleton_self, mk.injEq]
      omega
    · next hother =>
      simp only [List.count_singleton, beq_iff_eq, if_neg hother, mk.injEq]
      omega

theorem location_key_lt_step (cursor : Cursor) (c : Char) :
    cursor.location.key < (cursor.step c).location.key := by
  unfold step
  split
  · exact Prod.Lex.toLex_lt_toLex.2 (.inl (Int.lt_succ _))
  · exact Prod.Lex.toLex_lt_toLex.2 (.inr ⟨rfl, Int.lt_succ _⟩)

theorem location_key_lt_walk (cursor : Cursor) {text : List Char} (hne : text ≠ []) :
    cursor.location.key < (cursor.walk text).location.key := by
  induction text generalizing cursor with
  | nil => exact absurd rfl hne
  | cons c text ih =>
    have hstep := location_key_lt_step cursor c
    cases text with
    | nil => exact hstep
    | cons d text => exact hstep.trans (ih (cursor.step c) (by simp))

theorem location_key_le_walk (cursor : Cursor) (text : List Char) :
    cursor.location.key ≤ (cursor.walk text).location.key := by
  cases text with
  | nil => exact le_refl _
  | cons c text => exact (location_key_lt_walk cursor (List.cons_ne_nil c text)).le

namespace Reached

variable {cursor other : Cursor} {text : List Char}

theorem beginning (text : List Char) : Reached {} text := ⟨[], List.nil_prefix, rfl⟩

theorem placed (h : cursor.Reached text) : cursor.Placed text := by
  obtain ⟨before, hbefore, rfl⟩ := h
  have hlength := hbefore.length_le
  rw [walk_beginning]
  refine ⟨by simp, by simpa using hlength, ?_, ?_⟩ <;>
    rw [Int.toNat_natCast, ← List.prefix_iff_eq_take.1 hbefore]

theorem nonneg (h : cursor.Reached text) : 0 ≤ cursor.position := h.placed.nonneg

/-- Walking on over what lies at a cursor reaches another place of the text. -/
theorem walk (h : cursor.Reached text) {more : List Char}
    (hmore : more <+: text.drop cursor.position.toNat) : (cursor.walk more).Reached text := by
  obtain ⟨before, ⟨behind, rfl⟩, rfl⟩ := h
  refine ⟨before ++ more, ?_, (walk_append _ _ _).symm⟩
  rw [List.prefix_append_right_inj]
  simpa using hmore

theorem location_key_lt (h : cursor.Reached text) (h' : other.Reached text)
    (hlt : cursor.position < other.position) : cursor.location.key < other.location.key := by
  obtain ⟨before, hbefore, rfl⟩ := h
  obtain ⟨before', hbefore', rfl⟩ := h'
  simp only [position_walk] at hlt
  obtain ⟨more, rfl⟩ := List.prefix_of_prefix_length_le hbefore hbefore' (by omega)
  rw [List.length_append] at hlt
  rw [walk_append]
  apply location_key_lt_walk
  rintro rfl
  simp at hlt

theorem location_eq_iff (h : cursor.Reached text) (h' : other.Reached text) :
    cursor.location = other.location ↔ cursor.position = other.position := by
  constructor
  · intro hlocation
    by_contra hposition
    rcases Int.lt_or_gt_of_ne hposition with hlt | hlt
    · exact (location_key_lt h h' hlt).ne (congrArg _ hlocation)
    · exact (location_key_lt h' h hlt).ne (congrArg _ hlocation.symm)
  · intro hposition
    rw [location, location, h.placed.line, h'.placed.line, h.placed.column, h'.placed.column,
      hposition]

/-- Two places of a text come in the same order by their offsets as by their lines and columns. -/
theorem location_key_lt_iff (h : cursor.Reached text) (h' : other.Reached text) :
    cursor.location.key < other.location.key ↔ cursor.position < other.position := by
  refine ⟨fun hkey => ?_, location_key_lt h h'⟩
  by_contra hnot
  rcases Int.lt_or_eq_of_le (Int.not_lt.1 hnot) with hlt | heq
  · exact hkey.not_gt (location_key_lt h' h hlt)
  · exact hkey.ne (congrArg _ ((location_eq_iff h h').2 heq.symm))

end Reached

end Cursor

end LetArith
