namespace LetArith

/-- A line and a column, both counted from one in a source read from its beginning. -/
structure Location where
  line : Int
  column : Int
  deriving DecidableEq, Repr

/-- A place in a source text. The offset counts characters from zero; a negative one counts from
    the end of the text. -/
structure Cursor where
  position : Int := 0
  line : Int := 1
  column : Int := 1
  deriving DecidableEq, Repr

namespace Cursor

/-- The line and the column of a cursor. -/
def location (cursor : Cursor) : Location := ⟨cursor.line, cursor.column⟩

/-- The cursor behind a character. Only a line feed begins a line. -/
def step (cursor : Cursor) (c : Char) : Cursor :=
  if c = '\n' then ⟨cursor.position + 1, cursor.line + 1, 1⟩
  else ⟨cursor.position + 1, cursor.line, cursor.column + 1⟩

/-- The cursor after walking over a text. -/
def walk (cursor : Cursor) (text : List Char) : Cursor := text.foldl step cursor

@[simp] theorem position_step (cursor : Cursor) (c : Char) :
    (cursor.step c).position = cursor.position + 1 := by
  unfold step
  split <;> rfl

@[simp] theorem walk_nil (cursor : Cursor) : cursor.walk [] = cursor := rfl

@[simp] theorem walk_cons (cursor : Cursor) (c : Char) (text : List Char) :
    cursor.walk (c :: text) = (cursor.step c).walk text := rfl

theorem walk_append (cursor : Cursor) (before after : List Char) :
    cursor.walk (before ++ after) = (cursor.walk before).walk after := by
  simp [walk]

@[simp] theorem position_walk (cursor : Cursor) (text : List Char) :
    (cursor.walk text).position = cursor.position + text.length := by
  induction text generalizing cursor with
  | nil => simp
  | cons c text ih =>
    simp only [walk_cons, ih, position_step, List.length_cons]
    omega

end Cursor

end LetArith
