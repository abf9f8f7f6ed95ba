import LetArith.Node.Basic
import LetArith.Token.Basic

namespace LetArith

/-- Whether an operator joins the factors of a term. The others join terms. -/
def Operator.isMultiplicative : Operator → Bool
  | .plus | .minus => false
  | .times | .divide => true

/-- The number that a token denotes, as a tree. -/
def Token.leaf (token : Token) : Node :=
  .number (.ofNumeral false token.literal.toList 0) token.start.location

/-- A tree joined with a tree at its right. It begins where its left part begins. -/
def Node.join (left : Node) (operator : Operator) (right : Node) : Node :=
  .binary left operator right left.location

/-- An operator with the number behind it. -/
structure Link where
  sign : Token
  operand : Token
  operator : Operator
  operator?_kind : sign.kind.operator? = some operator
  operand_kind : operand.kind = .number

def Link.tokens (link : Link) : List Token := [link.sign, link.operand]

def Link.chain (links : List Link) : List Token := links.flatMap Link.tokens

/-- A term: the left fold of its factors by the operators between them. -/
def product (first : Node) (factors : List Link) : Node :=
  factors.foldl (fun left factor => left.join factor.operator factor.operand.leaf) first

/-- An additive operator with the term behind it, which begins with the operand of `head`. -/
structure Summand where
  head : Link
  factors : List Link

/-- The factors that belong to the first term of a chain, and the other terms. A chain is cut before
    each of its additive operators. -/
def terms : List Link → List Link × List Summand
  | [] => ([], [])
  | link :: links =>
    let (factors, summands) := terms links
    if link.operator.isMultiplicative then (link :: factors, summands)
    else ([], ⟨link, factors⟩ :: summands)

/-- An expression: the left fold of its terms by the operators between them. -/
def sum (first : Node) (summands : List Summand) : Node :=
  summands.foldl
    (fun left summand =>
      left.join summand.head.operator (product summand.head.operand.leaf summand.factors))
    first

/-- The tree of a chain behind a first tree, in two layers. -/
def layered (first : Node) (links : List Link) : Node :=
  sum (product first (terms links).1) (terms links).2

theorem layered_cons_of_multiplicative {link : Link} (first : Node) (links : List Link)
    (hlink : link.operator.isMultiplicative) :
    layered first (link :: links) =
      layered (first.join link.operator link.operand.leaf) links := by
  simp [layered, terms, hlink, product]

theorem terms_append_of_multiplicative {factors : List Link} (links : List Link)
    (hfactors : ∀ link ∈ factors, link.operator.isMultiplicative) :
    terms (factors ++ links) = (factors ++ (terms links).1, (terms links).2) := by
  induction factors with
  | nil => rfl
  | cons link factors ih =>
    simp only [List.mem_cons, forall_eq_or_imp] at hfactors
    simp [terms, hfactors.1, ih hfactors.2]

private theorem terms_fst_eq_nil {links : List Link}
    (hhead : ∀ link, links.head? = some link → ¬ link.operator.isMultiplicative) :
    (terms links).1 = [] := by
  cases links with
  | nil => rfl
  | cons link links => simp [terms, hhead link rfl]

theorem layered_cons_of_additive {link : Link} {factors links : List Link} (first : Node)
    (hlink : ¬ link.operator.isMultiplicative)
    (hfactors : ∀ link ∈ factors, link.operator.isMultiplicative)
    (hhead : ∀ link, links.head? = some link → ¬ link.operator.isMultiplicative) :
    layered first (link :: (factors ++ links)) =
      layered (first.join link.operator (layered link.operand.leaf factors)) links := by
  have hinner := terms_append_of_multiplicative [] hfactors
  simp only [List.append_nil, terms] at hinner
  simp [layered, terms, hlink, terms_append_of_multiplicative links hfactors,
    terms_fst_eq_nil hhead, hinner, product, sum]

/-- The operators in two classes by their powers. An operand reaches over the factors behind an
    additive operator, and over nothing behind a multiplicative one. -/
theorem Operator.rightPower_le_leftPower_iff (operator next : Operator) :
    operator.rightPower ≤ next.leftPower ↔
      ¬ operator.isMultiplicative ∧ next.isMultiplicative := by
  cases operator <;> cases next <;> decide

/-- The law of binding powers: the operand behind an operator takes the links that bind at least as
    tightly as its right power asks, and the rest of the chain goes on behind the joined tree. -/
theorem layered_cons_append {link : Link} {inner outer : List Link} (first : Node)
    (hinner : ∀ next ∈ inner, link.operator.rightPower ≤ next.operator.leftPower)
    (houter : ∀ next, outer.head? = some next →
      ¬ link.operator.rightPower ≤ next.operator.leftPower) :
    layered first (link :: (inner ++ outer)) =
      layered (first.join link.operator (layered link.operand.leaf inner)) outer := by
  simp only [Operator.rightPower_le_leftPower_iff] at hinner houter
  by_cases hlink : link.operator.isMultiplicative
  · have hempty : inner = [] := by
      apply List.eq_nil_iff_forall_not_mem.2
      intro next hnext
      exact (hinner next hnext).1 hlink
    rw [hempty]
    exact layered_cons_of_multiplicative first outer hlink
  · apply layered_cons_of_additive first hlink
    · exact fun next hnext => (hinner next hnext).2
    · intro next hnext hmultiplicative
      exact houter next hnext ⟨hlink, hmultiplicative⟩

end LetArith
