namespace LetArith.Text

/-- An interval of code points, both ends included. -/
structure CodeRange where
  first : Nat
  last : Nat
  deriving DecidableEq, Repr

/-- Whether the interval holds a character. -/
def CodeRange.contains (range : CodeRange) (c : Char) : Bool :=
  range.first ≤ c.toNat && c.toNat ≤ range.last

/-- Whether some interval of a table holds a character. -/
def inRanges (table : List CodeRange) (c : Char) : Bool := table.any (·.contains c)

end LetArith.Text
