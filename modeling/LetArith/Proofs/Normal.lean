import LetArith.Proofs.Layers
import Mathlib.Data.List.Forall2

namespace LetArith

namespace Node

/-- Whether an additive operator is at the root. -/
def isSum : Node → Bool
  | .binary _ operator _ _ => !operator.isMultiplicative
  | .number _ _ | .binding _ _ _ => false

def isNumber : Node → Bool
  | .number _ _ => true
  | .binary _ _ _ _ | .binding _ _ _ => false

/-- No operand of an expression would need brackets. The right operand of an additive operator is no
    sum; the left operand of a multiplicative one is no sum, and the right operand is a number. -/
def Normal : Node → Prop
  | .number _ _ => True
  | .binary left operator right _ =>
    left.Normal ∧ right.Normal ∧
      if operator.isMultiplicative then left.isSum = false ∧ right.isNumber
      else right.isSum = false
  | .binding _ _ _ => False

/-- The value of the leftmost leaf. -/
def firstLeaf : Node → Binary64
  | .number value _ => value
  | .binary left _ _ _ => left.firstLeaf
  | .binding _ initial _ => initial.firstLeaf

/-- The operators of an expression from the left to the right, each with the value of the leaf right
    behind it. -/
def otherLeaves : Node → List (Operator × Binary64)
  | .number _ _ => []
  | .binary left operator right _ =>
    left.otherLeaves ++ (operator, right.firstLeaf) :: right.otherLeaves
  | .binding _ initial _ => initial.otherLeaves

theorem otherLeaves_of_isNumber {node : Node} (h : node.isNumber) : node.otherLeaves = [] := by
  cases node with
  | number => rfl
  | binary | binding => cases h

/-- All operators of a term are multiplicative. -/
theorem isMultiplicative_of_mem_otherLeaves {node : Node} (hnormal : node.Normal)
    (hsum : node.isSum = false) :
    ∀ leaf ∈ node.otherLeaves, leaf.1.isMultiplicative := by
  induction node with
  | number => simp [otherLeaves]
  | binary left operator right _ ihleft =>
    have hmultiplicative : operator.isMultiplicative := by simpa [isSum] using hsum
    obtain ⟨hleft, -, hoperands⟩ := hnormal
    rw [if_pos hmultiplicative] at hoperands
    have hright := otherLeaves_of_isNumber hoperands.2
    intro leaf hleaf
    rw [otherLeaves, hright, List.mem_append, List.mem_singleton] at hleaf
    rcases hleaf with hleaf | rfl
    · exact ihleft hleft hoperands.1 leaf hleaf
    · exact hmultiplicative
  | binding => cases hnormal

end Node

/-- The number that a token denotes. -/
def Token.value (token : Token) : Binary64 := .ofNumeral false token.literal.toList 0

/-- A link joins by an operator and with a number of a value. -/
def Link.Denotes (link : Link) (leaf : Operator × Binary64) : Prop :=
  link.operator = leaf.1 ∧ link.operand.value == leaf.2

section Append

variable {link : Link} {links factors : List Link}

theorem layered_of_multiplicative (first : Node)
    (hfactors : ∀ factor ∈ factors, factor.operator.isMultiplicative) :
    layered first factors = product first factors := by
  have hterm := terms_append_of_multiplicative [] hfactors
  rw [List.append_nil] at hterm
  simp [layered, hterm, terms, sum]

private theorem terms_append_cons_of_additive (hlink : ¬ link.operator.isMultiplicative)
    (hfactors : ∀ factor ∈ factors, factor.operator.isMultiplicative) :
    terms (links ++ link :: factors) =
      ((terms links).1, (terms links).2 ++ [⟨link, factors⟩]) := by
  induction links with
  | nil =>
    have hterm := terms_append_of_multiplicative [] hfactors
    rw [List.append_nil] at hterm
    simp [terms, hlink, hterm]
  | cons first links ih =>
    simp only [List.cons_append, terms, ih]
    split <;> rfl

/-- The term behind the last additive operator of a chain is the right operand of that operator. -/
theorem layered_append_cons_of_additive (first : Node) (hlink : ¬ link.operator.isMultiplicative)
    (hfactors : ∀ factor ∈ factors, factor.operator.isMultiplicative) :
    layered first (links ++ link :: factors) =
      (layered first links).join link.operator (layered link.operand.leaf factors) := by
  rw [layered_of_multiplicative _ hfactors, layered, layered,
    terms_append_cons_of_additive hlink hfactors]
  simp [sum]

/-- The last number of a term is the right operand of the operator before it. -/
theorem layered_append_singleton_of_multiplicative (first : Node)
    (hlink : link.operator.isMultiplicative)
    (hlinks : ∀ factor ∈ links, factor.operator.isMultiplicative) :
    layered first (links ++ [link]) =
      (layered first links).join link.operator link.operand.leaf := by
  have hall : ∀ factor ∈ links ++ [link], factor.operator.isMultiplicative := by
    simpa [or_imp, forall_and] using ⟨hlinks, hlink⟩
  rw [layered_of_multiplicative _ hall, layered_of_multiplicative _ hlinks]
  simp [product]

end Append

private theorem isMultiplicative_of_forall₂_denotes {links : List Link}
    {leaves : List (Operator × Binary64)}
    (hlinks : List.Forall₂ Link.Denotes links leaves)
    (hleaves : ∀ leaf ∈ leaves, leaf.1.isMultiplicative) :
    ∀ link ∈ links, link.operator.isMultiplicative := by
  induction hlinks with
  | nil => simp
  | cons hlink _ ih =>
    rw [List.forall_mem_cons] at hleaves ⊢
    exact ⟨hlink.1 ▸ hleaves.1, ih hleaves.2⟩

/-- The law of layers for an operator at the root of a tree in normal form: behind the links of its
    left operand there is its own link, and then those of its right operand. -/
theorem layered_append_cons {left right : Node} {location : Location} {link : Link}
    {before behind : List Link} (first : Node)
    (hnormal : (Node.binary left link.operator right location).Normal)
    (hbefore : List.Forall₂ Link.Denotes before left.otherLeaves)
    (hbehind : List.Forall₂ Link.Denotes behind right.otherLeaves) :
    layered first (before ++ link :: behind) =
      (layered first before).join link.operator (layered link.operand.leaf behind) := by
  obtain ⟨hleft, hright, hoperands⟩ := hnormal
  by_cases hlink : link.operator.isMultiplicative
  · rw [if_pos hlink] at hoperands
    rw [Node.otherLeaves_of_isNumber hoperands.2] at hbehind
    obtain rfl := List.forall₂_nil_right_iff.1 hbehind
    apply layered_append_singleton_of_multiplicative first hlink
    exact isMultiplicative_of_forall₂_denotes hbefore
      (Node.isMultiplicative_of_mem_otherLeaves hleft hoperands.1)
  · rw [if_neg hlink] at hoperands
    apply layered_append_cons_of_additive first hlink
    exact isMultiplicative_of_forall₂_denotes hbehind
      (Node.isMultiplicative_of_mem_otherLeaves hright hoperands)

/-- A tree in normal form is made again from its leaves and operators in their order. -/
theorem beq_layered {node : Node} (hnormal : node.Normal) {first : Token} {links : List Link}
    (hfirst : first.value == node.firstLeaf)
    (hlinks : List.Forall₂ Link.Denotes links node.otherLeaves) :
    layered first.leaf links == node := by
  induction node generalizing first links with
  | number value location =>
    obtain rfl := List.forall₂_nil_right_iff.1 hlinks
    exact hfirst
  | binary left operator right location ihleft ihright =>
    have hbefore := List.forall₂_take_append _ _ _ hlinks
    have hbehind := List.forall₂_drop_append _ _ _ hlinks
    obtain ⟨link, behind, ⟨rfl, hoperand⟩, hinner, hdrop⟩ := List.forall₂_cons_right_iff.1 hbehind
    have hchain : links = links.take left.otherLeaves.length ++ link :: behind := by
      rw [← hdrop, List.take_append_drop]
    rw [hchain, layered_append_cons first.leaf hnormal hbefore hinner]
    have hleft := ihleft hnormal.1 hfirst hbefore
    have hright := ihright hnormal.2.1 hoperand hinner
    change (Node.beq _ _ && _ && Node.beq _ _) = true
    simpa using ⟨hleft, hright⟩
  | binding => cases hnormal

section Layers

/-- A link as an operator with the value behind it. -/
def Link.leaf (link : Link) : Operator × Binary64 := (link.operator, link.operand.value)

theorem firstLeaf_product (first : Node) (factors : List Link) :
    (product first factors).firstLeaf = first.firstLeaf := by
  induction factors generalizing first with
  | nil => rfl
  | cons factor factors ih => exact ih _

theorem otherLeaves_product (first : Node) (factors : List Link) :
    (product first factors).otherLeaves = first.otherLeaves ++ factors.map Link.leaf := by
  induction factors generalizing first with
  | nil => simp [product]
  | cons factor factors ih =>
    rw [product, List.foldl_cons, ← product, ih, Node.join, Node.otherLeaves]
    simp [Token.leaf, Node.otherLeaves, Node.firstLeaf, Link.leaf, Token.value]

theorem firstLeaf_sum (first : Node) (summands : List Summand) :
    (sum first summands).firstLeaf = first.firstLeaf := by
  induction summands generalizing first with
  | nil => rfl
  | cons summand summands ih => exact ih _

theorem otherLeaves_sum (first : Node) (summands : List Summand) :
    (sum first summands).otherLeaves = first.otherLeaves ++
      (summands.flatMap fun summand => summand.head :: summand.factors).map Link.leaf := by
  induction summands generalizing first with
  | nil => simp [sum]
  | cons summand summands ih =>
    rw [sum, List.foldl_cons, ← sum, ih, Node.join, Node.otherLeaves, firstLeaf_product,
      otherLeaves_product]
    simp [Token.leaf, Node.otherLeaves, Node.firstLeaf, Link.leaf, Token.value]

theorem terms_flatten (links : List Link) :
    (terms links).1 ++ (terms links).2.flatMap (fun summand => summand.head :: summand.factors) =
      links := by
  induction links with
  | nil => rfl
  | cons link links ih =>
    conv_rhs => rw [← ih]
    simp only [terms]
    split <;> simp

theorem firstLeaf_layered (first : Node) (links : List Link) :
    (layered first links).firstLeaf = first.firstLeaf := by
  rw [layered, firstLeaf_sum, firstLeaf_product]

theorem otherLeaves_layered (first : Node) (links : List Link) :
    (layered first links).otherLeaves = first.otherLeaves ++ links.map Link.leaf := by
  rw [layered, otherLeaves_sum, otherLeaves_product, List.append_assoc, ← List.map_append,
    terms_flatten]

theorem normal_product (first : Node) {factors : List Link} (hfirst : first.Normal)
    (hsum : first.isSum = false)
    (hfactors : ∀ factor ∈ factors, factor.operator.isMultiplicative) :
    (product first factors).Normal ∧ (product first factors).isSum = false := by
  induction factors generalizing first with
  | nil => exact ⟨hfirst, hsum⟩
  | cons factor factors ih =>
    obtain ⟨hfactor, hfactors⟩ := List.forall_mem_cons.1 hfactors
    apply ih
    · simp [Node.join, Node.Normal, Token.leaf, Node.isNumber, hfirst, hsum, hfactor]
    · simp [Node.join, Node.isSum, hfactor]
    · exact hfactors

theorem normal_sum {first : Node} {summands : List Summand} (hfirst : first.Normal)
    (hsummands : ∀ summand ∈ summands, ¬ summand.head.operator.isMultiplicative ∧
      ∀ factor ∈ summand.factors, factor.operator.isMultiplicative) :
    (sum first summands).Normal := by
  induction summands generalizing first with
  | nil => exact hfirst
  | cons summand summands ih =>
    obtain ⟨⟨hhead, hfactors⟩, hsummands⟩ := List.forall_mem_cons.1 hsummands
    apply ih
    · have hterm := normal_product summand.head.operand.leaf trivial rfl hfactors
      simp only [Node.join, Node.Normal, if_neg hhead]
      exact ⟨hfirst, hterm⟩
    · exact hsummands

private theorem isMultiplicative_terms (links : List Link) :
    (∀ factor ∈ (terms links).1, factor.operator.isMultiplicative) ∧
      ∀ summand ∈ (terms links).2, ¬ summand.head.operator.isMultiplicative ∧
        ∀ factor ∈ summand.factors, factor.operator.isMultiplicative := by
  induction links with
  | nil => simp [terms]
  | cons link links ih =>
    simp only [terms]
    split
    · next hlink => exact ⟨List.forall_mem_cons.2 ⟨hlink, ih.1⟩, ih.2⟩
    · next hlink => exact ⟨by simp, List.forall_mem_cons.2 ⟨⟨hlink, ih.1⟩, ih.2⟩⟩

/-- The tree of a chain in two layers is in normal form. -/
theorem normal_layered (first : Token) (links : List Link) : (layered first.leaf links).Normal := by
  obtain ⟨hfactors, hsummands⟩ := isMultiplicative_terms links
  exact normal_sum (normal_product first.leaf trivial rfl hfactors).1 hsummands

end Layers

end LetArith
