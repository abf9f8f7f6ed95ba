import LetArith.Proofs.Normal
import LetArith.Proofs.Places
import LetArith.Proofs.Spans
import LetArith.Proofs.Verdict

namespace LetArith

namespace Node

/-- The numbers of a tree from the left to the right, each with its place. -/
def leaves : Node → List (Binary64 × Location)
  | .number value location => [(value, location)]
  | .binary left _ right _ => left.leaves ++ right.leaves
  | .binding _ initial _ => initial.leaves

/-- A tree and all trees within it. -/
def subtrees : Node → List Node
  | .number value location => [.number value location]
  | .binary left operator right location =>
    .binary left operator right location :: (left.subtrees ++ right.subtrees)
  | .binding name initial location => .binding name initial location :: initial.subtrees

/-- An expression whose operations begin where their left operand begins. -/
def Anchored : Node → Prop
  | .number _ _ => True
  | .binary left _ right location =>
    left.Anchored ∧ right.Anchored ∧ left.location = location
  | .binding _ _ _ => False

theorem Anchored.join {left right : Node} (hleft : left.Anchored) (operator : Operator)
    (hright : right.Anchored) : (left.join operator right).Anchored :=
  ⟨hleft, hright, rfl⟩

@[simp] theorem leaves_join (left : Node) (operator : Operator) (right : Node) :
    (left.join operator right).leaves = left.leaves ++ right.leaves := rfl

theorem Anchored.of_mem_subtrees {node other : Node} (h : node.Anchored)
    (hother : other ∈ node.subtrees) : other.Anchored := by
  induction node with
  | number value location =>
    obtain rfl := List.mem_singleton.1 hother
    exact h
  | binary left operator right location ihleft ihright =>
    rcases List.mem_cons.1 hother with rfl | hother
    · exact h
    · rcases List.mem_append.1 hother with hother | hother
      · exact ihleft h.1 hother
      · exact ihright h.2.1 hother
  | binding => exact h.elim

/-- An expression begins with its leftmost number. -/
theorem Anchored.head?_leaves {node : Node} (h : node.Anchored) :
    node.leaves.head?.map Prod.snd = some node.location := by
  induction node with
  | number => rfl
  | binary left operator right location ihleft =>
    obtain ⟨hleft, -, rfl⟩ := h
    rw [leaves, List.head?_append, Option.map_or, ihleft hleft]
    rfl
  | binding => exact h.elim

private theorem leaves_sublist_of_mem_subtrees {node other : Node}
    (hother : other ∈ node.subtrees) :
    other.leaves.Sublist node.leaves := by
  induction node with
  | number value location =>
    obtain rfl := List.mem_singleton.1 hother
    exact .refl _
  | binary left operator right location ihleft ihright =>
    rcases List.mem_cons.1 hother with rfl | hother
    · exact .refl _
    · rcases List.mem_append.1 hother with hother | hother
      · exact (ihleft hother).trans (List.sublist_append_left _ _)
      · exact (ihright hother).trans (List.sublist_append_right _ _)
  | binding name initial location ih =>
    rcases List.mem_cons.1 hother with rfl | hother
    · exact .refl _
    · exact ih hother

/-- Numbers that come one behind another. -/
def Ascending (leaves : List (Binary64 × Location)) : Prop :=
  leaves.Pairwise fun leaf other => leaf.2.key < other.2.key

/-- Where the numbers of an operation come one behind another, the right operand comes behind the
    left one. -/
theorem Anchored.location_key_lt {left right : Node} {operator : Operator} {location : Location}
    (h : (Node.binary left operator right location).Anchored)
    (hascending : Ascending (Node.binary left operator right location).leaves) :
    left.location.key < right.location.key := by
  obtain ⟨first, hfirst, hleft⟩ := Option.map_eq_some_iff.1 h.1.head?_leaves
  obtain ⟨second, hsecond, hright⟩ := Option.map_eq_some_iff.1 h.2.1.head?_leaves
  rw [← hleft, ← hright]
  exact (List.pairwise_append.1 hascending).2.2 first (List.mem_of_mem_head? hfirst)
    second (List.mem_of_mem_head? hsecond)

end Node

/-- What a number token becomes in a tree: its value at its place. -/
def Token.number (token : Token) : Binary64 × Location := (token.value, token.start.location)

theorem Token.anchored_leaf (token : Token) : token.leaf.Anchored := trivial

section Layers

theorem leaves_product (first : Node) (factors : List Link) :
    (product first factors).leaves =
      first.leaves ++ factors.map (fun factor => factor.operand.number) := by
  induction factors generalizing first with
  | nil => simp [product]
  | cons factor factors ih =>
    rw [product, List.foldl_cons, ← product, ih, Node.leaves_join, List.append_assoc]
    rfl

theorem leaves_sum (first : Node) (summands : List Summand) :
    (sum first summands).leaves = first.leaves ++
      (summands.flatMap fun summand => summand.head :: summand.factors).map
        (fun link => link.operand.number) := by
  induction summands generalizing first with
  | nil => simp [sum]
  | cons summand summands ih =>
    rw [sum, List.foldl_cons, ← sum, ih, Node.leaves_join, leaves_product, List.append_assoc,
      List.append_assoc, List.flatMap_cons, List.map_append]
    rfl

theorem leaves_layered (first : Node) (links : List Link) :
    (layered first links).leaves =
      first.leaves ++ links.map (fun link => link.operand.number) := by
  rw [layered, leaves_sum, leaves_product, List.append_assoc, ← List.map_append, terms_flatten]

theorem anchored_product {first : Node} (hfirst : first.Anchored) (factors : List Link) :
    (product first factors).Anchored := by
  induction factors generalizing first with
  | nil => exact hfirst
  | cons factor factors ih => exact ih (hfirst.join factor.operator factor.operand.anchored_leaf)

theorem anchored_layered {first : Node} (hfirst : first.Anchored) (links : List Link) :
    (layered first links).Anchored := by
  have hsum (summands : List Summand) {first : Node} (hfirst : first.Anchored) :
      (sum first summands).Anchored := by
    induction summands generalizing first with
    | nil => exact hfirst
    | cons summand summands ih =>
      have hterm := anchored_product summand.head.operand.anchored_leaf summand.factors
      exact ih (hfirst.join summand.head.operator hterm)
  exact hsum _ (anchored_product hfirst _)

end Layers

namespace Phrase

private theorem filter_number_tokens (phrase : Phrase) :
    phrase.tokens.filter (fun token => token.kind = .number) =
      phrase.first :: phrase.links.map Link.operand := by
  have hchain (links : List Link) :
      (Link.chain links).filter (fun token => token.kind = .number) = links.map Link.operand := by
    induction links with
    | nil => rfl
    | cons link links ih =>
      have hsign : link.sign.kind ≠ .number := by
        intro hnumber
        have hoperator := link.operator?_kind
        rw [hnumber] at hoperator
        cases hoperator
      simp [hsign, link.operand_kind, ih]
  simp [tokens, phrase.keyword_kind, phrase.name_kind, phrase.sign_kind, phrase.first_kind, hchain]

/-- The numbers of the bindings of a row are those of its tokens. -/
theorem leaves_row (phrases : List Phrase) :
    (phrases.map node).flatMap Node.leaves =
      ((row phrases).filter fun token => token.kind = .number).map Token.number := by
  induction phrases with
  | nil => rfl
  | cons phrase phrases ih =>
    rw [List.map_cons, List.flatMap_cons, ih, row, row, List.flatMap_cons, List.filter_append,
      List.map_append, filter_number_tokens]
    congr 1
    rw [node, Node.leaves, leaves_layered, List.map_cons, List.map_map]
    rfl

end Phrase

namespace Piece

private theorem location_key_le_of_mem_tokens (cursor : Cursor) (pieces : List Piece) :
    ∀ token ∈ tokens cursor pieces, cursor.location.key ≤ token.start.location.key := by
  induction pieces generalizing cursor with
  | nil => simp [tokens]
  | cons piece others ih =>
    refine List.forall_mem_cons.2 ⟨cursor.location_key_le_walk piece.blanks, ?_⟩
    intro token htoken
    exact (cursor.location_key_le_walk piece.text).trans (ih _ token htoken)

/-- The tokens of a text begin one behind another. -/
theorem pairwise_tokens (cursor : Cursor) (text : List Char) :
    (tokens cursor (all text)).Pairwise
      fun token other => token.start.location.key < other.start.location.key := by
  induction text using Piece.induction generalizing cursor with
  | blank text hblank =>
    rw [all_of_blank hblank]
    exact .nil
  | piece blanks lexeme rest hblanks hfirst hsolid ih =>
    rw [all_append hblanks hfirst hsolid, tokens, List.pairwise_cons]
    refine ⟨fun token htoken => ?_, ih _⟩
    refine lt_of_lt_of_le ?_ (location_key_le_of_mem_tokens _ _ token htoken)
    rw [Piece.text, Cursor.walk_append]
    exact Cursor.location_key_lt_walk _ (Lexeme.first?_ne_nil hfirst).2

end Piece

/-- How the nodes of a program are placed by the tokens of its text. -/
structure Node.PlacedBy (tokens : List Token) (nodes : List Node) : Prop where
  /-- Each statement is a binding that begins with its keyword. -/
  bindings : List.Forall₂
    (fun node token => ∃ name initial, node = .binding name initial token.start.location)
    nodes (tokens.filter fun token => token.kind = .letKeyword)
  /-- The leaves are the number tokens, with their values and their places. -/
  leaves : nodes.flatMap Node.leaves =
    (tokens.filter fun token => token.kind = .number).map Token.number
  /-- At any depth, an operation begins with the leftmost of its leaves. -/
  leftmost : ∀ node ∈ nodes, ∀ left operator right location,
    .binary left operator right location ∈ node.subtrees →
      (Node.binary left operator right location).leaves.head?.map Prod.snd = some location
  /-- An operation begins with its left operand, and the right one comes behind. -/
  operands : ∀ node ∈ nodes, ∀ left operator right location,
    .binary left operator right location ∈ node.subtrees →
      left.location = location ∧ location.key < right.location.key
  /-- The statements come one behind another. -/
  ascending : nodes.Pairwise fun node other => node.location.key < other.location.key

theorem Phrase.anchored_of_mem_subtrees (phrase : Phrase) {left right : Node}
    {operator : Operator} {location : Location}
    (hmem : .binary left operator right location ∈ phrase.node.subtrees) :
    (Node.binary left operator right location).Anchored := by
  have hinitial := anchored_layered phrase.first.anchored_leaf phrase.links
  rcases List.mem_cons.1 hmem with hbinding | hwithin
  · cases hbinding
  · exact hinitial.of_mem_subtrees hwithin

/-- The bindings of a row are placed by its tokens, if these come one behind another. -/
theorem Phrase.placedBy_row (phrases : List Phrase)
    (hpairwise : (row phrases).Pairwise
      fun token other => token.start.location.key < other.start.location.key) :
    Node.PlacedBy (row phrases) (phrases.map node) := by
  refine ⟨?bindings, leaves_row phrases, ?leftmost, ?operands, ?ascending⟩
  case bindings =>
    rw [filter_row, List.forall₂_map_left_iff, List.forall₂_map_right_iff, List.forall₂_same]
    exact fun phrase _ => ⟨_, _, rfl⟩
  case leftmost =>
    intro root hroot left operator right location hmem
    obtain ⟨phrase, -, rfl⟩ := List.mem_map.1 hroot
    exact (phrase.anchored_of_mem_subtrees hmem).head?_leaves
  case operands =>
    intro root hroot left operator right location hmem
    obtain ⟨phrase, -, rfl⟩ := List.mem_map.1 hroot
    have hanchored := phrase.anchored_of_mem_subtrees hmem
    have hascending : Node.Ascending ((phrases.map node).flatMap Node.leaves) := by
      rw [leaves_row]
      exact List.pairwise_map.2 (hpairwise.filter _)
    have hwithin := ((List.pairwise_flatMap.1 hascending).1 _ hroot).sublist
      (Node.leaves_sublist_of_mem_subtrees hmem)
    exact ⟨hanchored.2.2, hanchored.2.2 ▸ hanchored.location_key_lt hwithin⟩
  case ascending =>
    have hkeywords := hpairwise.filter fun token => token.kind = .letKeyword
    rw [filter_row, List.pairwise_map] at hkeywords
    exact List.pairwise_map.2 hkeywords

/-- The nodes of a program are placed by the tokens of its text. -/
theorem nodes_placed_by_tokens (text : String) {nodes : List Node}
    (hparse : parse text = .ok nodes) :
    ∃ tokens, tokenize text = .ok tokens ∧ Node.PlacedBy tokens nodes := by
  obtain ⟨tokens, last, htokenize, -, -, hcases⟩ := parse_cases text
  refine ⟨tokens, htokenize, ?_⟩
  have hpairwise := Piece.pairwise_tokens {} text.toList
  rw [← Except.ok.inj (htokenize.symm.trans (tokens_eq text).1)] at hpairwise
  rcases hcases with ⟨phrases, rfl, haccepted⟩ | ⟨before, wrong, after, -, -, -, hrefused⟩
  · obtain rfl := Except.ok.inj (haccepted.symm.trans hparse)
    exact Phrase.placedBy_row phrases hpairwise
  · rw [hrefused] at hparse
    cases hparse

/-- A sum whose product goes on in the next line, and a second statement there. -/
theorem nodes_placed_by_tokens_of_two_lines :
    let nodes := [
      Node.binding "x"
        (.binary (.number (.ofNumeral false "1".toList 0) ⟨1, 7⟩) .plus
          (.binary (.number (.ofNumeral false "2".toList 0) ⟨1, 9⟩) .times
            (.number (.ofNumeral false "3".toList 0) ⟨2, 1⟩) ⟨1, 9⟩) ⟨1, 7⟩) ⟨1, 1⟩,
      .binding "y" (.number (.ofNumeral false "4".toList 0) ⟨2, 11⟩) ⟨2, 3⟩]
    parse "let x=1+2*\n3 let y = 4" = .ok nodes ∧
      ∃ tokens, tokenize "let x=1+2*\n3 let y = 4" = .ok tokens ∧
        Node.PlacedBy tokens nodes := by
  intro nodes
  have hparse : parse "let x=1+2*\n3 let y = 4" = .ok nodes := by decide +kernel
  exact ⟨hparse, nodes_placed_by_tokens _ hparse⟩

end LetArith
