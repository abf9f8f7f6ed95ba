import LetArith.Binary64.Text
import LetArith.Cursor
import LetArith.Operator

namespace LetArith

/-- A node of a syntax tree, with the place of its first token. The grammar puts a binding nowhere
    but at the root of a tree; a tree made by hand may hold one anywhere. -/
inductive Node where
  | number (value : Binary64) (location : Location)
  | binary (left : Node) (operator : Operator) (right : Node) (location : Location)
  | binding (name : String) (initial : Node) (location : Location)
  deriving DecidableEq

namespace Node

/-- The place of the first token of a node. -/
def location : Node → Location
  | .number _ location => location
  | .binary _ _ _ location => location
  | .binding _ _ location => location

/-- Equality of trees by shape, names, operators and values. Places do not count, and values are
    compared as numbers. -/
protected def beq : Node → Node → Bool
  | .number x _, .number y _ => x == y
  | .binary left operator right _, .binary left' operator' right' _ =>
    Node.beq left left' && operator = operator' && Node.beq right right'
  | .binding name initial _, .binding name' initial' _ =>
    name = name' && Node.beq initial initial'
  | _, _ => false

instance : BEq Node := ⟨Node.beq⟩

/-- How many nodes are inside of one another in a tree, the innermost left out. -/
def height : Node → Nat
  | .number _ _ => 0
  | .binary left _ right _ => max left.height right.height + 1
  | .binding _ initial _ => initial.height + 1

/-- Whether a tree is no higher than a limit, if there is one. -/
def fits (limit : Option Nat) (node : Node) : Bool := limit.all (node.height ≤ ·)

/-- A node as text, without places. -/
def listing : Node → String
  | .number value _ => "Number(" ++ value.text Binary64.listingFormat ++ ")"
  | .binary left operator right _ =>
    "Binary(" ++ left.listing ++ ", " ++ operator.symbol ++ ", " ++ right.listing ++ ")"
  | .binding name initial _ => "Let(" ++ name ++ ", " ++ initial.listing ++ ")"

/-- The listing of trees, one to a line. -/
def lines (nodes : List Node) : String := "\n".intercalate (nodes.map listing)

end Node

end LetArith
