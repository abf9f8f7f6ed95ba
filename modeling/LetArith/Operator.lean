namespace LetArith

/-- An arithmetic operator. -/
inductive Operator where
  | plus
  | minus
  | times
  | divide
  deriving DecidableEq, Repr

namespace Operator

/-- The sign of an operator. -/
def symbol : Operator → String
  | .plus => "+"
  | .minus => "-"
  | .times => "*"
  | .divide => "/"

/-- How strongly an operator holds on to the operand at its left. -/
def leftPower : Operator → Int
  | .plus | .minus => 6
  | .times | .divide => 8

/-- How strongly an operator holds on to the operand at its right. It is greater than the power to
    the left, so that operators of one strength group from the left. -/
def rightPower : Operator → Int
  | .plus | .minus => 7
  | .times | .divide => 9

end Operator

end LetArith
