import LetArith.Proofs.Normal
import LetArith.Proofs.Phrase
import LetArith.Proofs.Places
import LetArith.Proofs.Trace

namespace LetArith

/-- Where a place of a text lies when the text comes behind a base. -/
def Location.relocate (base location : Location) : Location :=
  ⟨base.line + location.line - 1,
    if location.line = 1 then base.column + location.column - 1 else location.column⟩

/-- Where a place of a text lies when the text comes right behind another one. -/
def Location.behind (before : List Char) (location : Location) : Location :=
  ⟨location.line + before.count '\n',
    if location.line = 1 then location.column + (before.length - Text.lastLine before)
    else location.column⟩

namespace Cursor

/-- Where a cursor of a text stands when the text comes behind a base. -/
def relocate (base cursor : Cursor) : Cursor :=
  let location := base.location.relocate cursor.location
  ⟨base.position + cursor.position, location.line, location.column⟩

theorem relocate_beginning (base : Cursor) : base.relocate {} = base := by
  simp [relocate, Location.relocate, location]

theorem relocate_step (base : Cursor) {cursor : Cursor} (hline : 1 ≤ cursor.line) (c : Char) :
    base.relocate (cursor.step c) = (base.relocate cursor).step c := by
  unfold relocate Location.relocate location step
  split
  · have hnext : cursor.line + 1 ≠ 1 := by omega
    simp only [if_neg hnext, mk.injEq, and_true]
    omega
  · simp only [mk.injEq, true_and]
    split <;> omega

theorem one_le_line_step {cursor : Cursor} (hline : 1 ≤ cursor.line) (c : Char) :
    1 ≤ (cursor.step c).line := by
  unfold step
  split
  · simp only
    omega
  · exact hline

theorem one_le_line_walk {cursor : Cursor} (hline : 1 ≤ cursor.line) (text : List Char) :
    1 ≤ (cursor.walk text).line := by
  induction text generalizing cursor with
  | nil => exact hline
  | cons c text ih => exact ih (one_le_line_step hline c)

theorem relocate_walk (base : Cursor) {cursor : Cursor} (hline : 1 ≤ cursor.line)
    (text : List Char) : base.relocate (cursor.walk text) = (base.relocate cursor).walk text := by
  induction text generalizing cursor with
  | nil => rfl
  | cons c text ih =>
    rw [walk_cons, walk_cons, ih (one_le_line_step hline c), relocate_step base hline]

/-- Behind a text lines and columns go on from its last line. -/
theorem relocate_location_walk (before : List Char) (location : Location) :
    (walk {} before).location.relocate location = location.behind before := by
  rw [walk_beginning]
  simp only [Cursor.location, Location.relocate, Location.behind, Location.mk.injEq]
  constructor
  · omega
  · split <;> omega

end Cursor

/-- A token of a text that comes behind a base. -/
def Token.relocate (base : Cursor) (token : Token) : Token :=
  { token with start := base.relocate token.start }

/-- A tree with other places. -/
def Node.mapLocation (f : Location → Location) : Node → Node
  | .number value location => .number value (f location)
  | .binary left operator right location =>
    .binary (left.mapLocation f) operator (right.mapLocation f) (f location)
  | .binding name initial location => .binding name (initial.mapLocation f) (f location)

/-- The tokens of a text that is moved are its tokens moved. -/
theorem Piece.tokens_relocate (base : Cursor) {cursor : Cursor} (hline : 1 ≤ cursor.line)
    (pieces : List Piece) :
    tokens (base.relocate cursor) pieces = (tokens cursor pieces).map (Token.relocate base) := by
  induction pieces generalizing cursor with
  | nil => rfl
  | cons piece pieces ih =>
    rw [tokens, tokens, ← Cursor.relocate_walk base hline, ← Cursor.relocate_walk base hline,
      ih (Cursor.one_le_line_walk hline piece.text), List.map_cons]
    rfl

/-- The tokens of a text that lies at a base are its tokens moved from the beginning. -/
theorem Piece.tokens_eq_map_relocate (base : Cursor) (pieces : List Piece) :
    tokens base pieces = (tokens {} pieces).map (Token.relocate base) := by
  have hbeginning : 1 ≤ ({} : Cursor).line := Int.le_refl 1
  rw [← tokens_relocate base hbeginning, Cursor.relocate_beginning]

namespace Node

variable (f : Location → Location)

theorem location_mapLocation (node : Node) : (node.mapLocation f).location = f node.location := by
  cases node <;> rfl

theorem join_mapLocation (left : Node) (operator : Operator) (right : Node) :
    (left.join operator right).mapLocation f =
      (left.mapLocation f).join operator (right.mapLocation f) := by
  rw [join, join, mapLocation, location_mapLocation]

theorem firstLeaf_mapLocation (node : Node) : (node.mapLocation f).firstLeaf = node.firstLeaf := by
  induction node with
  | number => rfl
  | binary _ _ _ _ ihleft => exact ihleft
  | binding _ _ _ ih => exact ih

theorem otherLeaves_mapLocation (node : Node) :
    (node.mapLocation f).otherLeaves = node.otherLeaves := by
  induction node with
  | number => rfl
  | binary _ _ right _ ihleft ihright =>
    rw [mapLocation, otherLeaves, otherLeaves, ihleft, ihright, firstLeaf_mapLocation]
  | binding _ _ _ ih => exact ih

end Node

section Relocate

variable (base : Cursor)

/-- A link of a text that comes behind a base. -/
def Link.relocate (link : Link) : Link :=
  { link with sign := link.sign.relocate base, operand := link.operand.relocate base }

theorem product_relocate (first : Node) (factors : List Link) :
    product (first.mapLocation base.location.relocate) (factors.map (Link.relocate base)) =
      (product first factors).mapLocation base.location.relocate := by
  induction factors generalizing first with
  | nil => rfl
  | cons factor factors ih =>
    have hjoin := Node.join_mapLocation base.location.relocate first factor.operator
      factor.operand.leaf
    rw [List.map_cons, product, List.foldl_cons, product, List.foldl_cons, ← product, ← product,
      ← ih, hjoin]
    rfl

/-- A summand of a text that comes behind a base. -/
def Summand.relocate (summand : Summand) : Summand :=
  ⟨summand.head.relocate base, summand.factors.map (Link.relocate base)⟩

theorem sum_relocate (first : Node) (summands : List Summand) :
    sum (first.mapLocation base.location.relocate) (summands.map (Summand.relocate base)) =
      (sum first summands).mapLocation base.location.relocate := by
  induction summands generalizing first with
  | nil => rfl
  | cons summand summands ih =>
    have hterm := product_relocate base summand.head.operand.leaf summand.factors
    have hjoin := Node.join_mapLocation base.location.relocate first summand.head.operator
      (product summand.head.operand.leaf summand.factors)
    rw [List.map_cons, sum, List.foldl_cons, sum, List.foldl_cons, ← sum, ← sum, ← ih, hjoin,
      ← hterm]
    rfl

theorem terms_relocate (links : List Link) :
    terms (links.map (Link.relocate base)) =
      ((terms links).1.map (Link.relocate base), (terms links).2.map (Summand.relocate base)) := by
  induction links with
  | nil => rfl
  | cons link links ih =>
    have hoperator : (link.relocate base).operator = link.operator := rfl
    simp only [List.map_cons, terms, ih, hoperator]
    split <;> rfl

theorem layered_relocate (first : Node) (links : List Link) :
    layered (first.mapLocation base.location.relocate) (links.map (Link.relocate base)) =
      (layered first links).mapLocation base.location.relocate := by
  rw [layered, layered, terms_relocate, product_relocate, sum_relocate]

namespace Phrase

/-- A phrase of a text that comes behind a base. -/
def relocate (phrase : Phrase) : Phrase :=
  { phrase with
    keyword := phrase.keyword.relocate base
    name := phrase.name.relocate base
    sign := phrase.sign.relocate base
    first := phrase.first.relocate base
    links := phrase.links.map (Link.relocate base) }

theorem node_relocate (phrase : Phrase) :
    (phrase.relocate base).node = phrase.node.mapLocation base.location.relocate := by
  rw [node, node, Node.mapLocation, ← layered_relocate]
  rfl

theorem tokens_relocate (phrase : Phrase) :
    (phrase.relocate base).tokens = phrase.tokens.map (Token.relocate base) := by
  have hchain (links : List Link) : Link.chain (links.map (Link.relocate base)) =
      (Link.chain links).map (Token.relocate base) := by
    induction links with
    | nil => rfl
    | cons link links ih => simp [ih, Link.relocate]
  rw [tokens, tokens, List.map_cons, List.map_cons, List.map_cons, List.map_cons, ← hchain]
  rfl

theorem row_relocate (phrases : List Phrase) :
    row (phrases.map (relocate base)) = (row phrases).map (Token.relocate base) := by
  rw [row, row, List.flatMap_map, List.map_flatMap]
  simp only [tokens_relocate]

end Phrase

end Relocate

end LetArith
