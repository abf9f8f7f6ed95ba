import LetArith.Node.Document
import LetArith.Proofs.Json.RoundTrip
import LetArith.Proofs.Matching
import LetArith.Proofs.NodePlaces

namespace LetArith

namespace Binary64

/-- Whether a number is an integer of this value. -/
def isInteger (x : Binary64) (value : Int) : Bool :=
  match x with
  | .finite negative rank =>
    (if negative then -(units rank : Int) else units rank) = value * unitsInOne
  | _ => false

/-- The number that stands for all numbers of its value. Zero is the only value of two numbers. -/
def representative : Binary64 → Binary64
  | .finite negative rank => .finite (negative && rank.val ≠ 0) rank
  | x => x

/-- Two numbers are equal if the same number stands for them, and what is no number is equal to
    nothing. -/
theorem beq_iff {x y : Binary64} : x == y ↔ x ≠ .nan ∧ x.representative = y.representative := by
  change Binary64.beq x y ↔ _
  cases x with
  | finite negative rank =>
    cases y with
    | finite negative' rank' =>
      by_cases hrank : rank = rank'
      · subst hrank
        cases negative <;> cases negative' <;> simp [Binary64.beq, representative]
      · simp [Binary64.beq, representative, hrank]
    | infinite | nan => simp [Binary64.beq, representative]
  | infinite negative => cases y <;> simp [Binary64.beq, representative]
  | nan => cases y <;> simp [Binary64.beq]

end Binary64

namespace Json

mutual

/-- Equality of documents. Objects are tables, in which the order of the fields does not count, and
    numbers are equal by value. -/
protected def beq : Json → Json → Bool
  | .integer m, .integer n => m = n
  | .integer m, .real y => y.isInteger m
  | .real x, .integer n => x.isInteger n
  | .real x, .real y => x == y
  | .text s, .text t => s = t
  | .array items, .array others => beqItems items others
  | .object fields, .object others => fields.length = others.length && fieldsAmong fields others
  | _, _ => false

/-- Equality of the items of two arrays. -/
def beqItems : List Json → List Json → Bool
  | [], [] => true
  | item :: items, other :: others => Json.beq item other && beqItems items others
  | _, _ => false

/-- Whether all fields are among others, by their names and with equal values. -/
def fieldsAmong : List (String × Json) → List (String × Json) → Bool
  | [], _ => true
  | (name, value) :: fields, others =>
    (others.lookup name).any (fun other => Json.beq value other) && fieldsAmong fields others

end

instance : BEq Json := ⟨Json.beq⟩

example : Json.object [("a", .integer 1), ("b", .real (.ofDecimal false 2 0))] ==
    .object [("b", .integer 2), ("a", .integer 1)] := by decide +kernel

mutual

/-- A document without the fields of some names, at every depth. -/
def withoutFields (names : List String) : Json → Json
  | .array items => .array (itemsWithoutFields names items)
  | .object fields => .object (fieldsWithoutFields names fields)
  | document => document

/-- The items of an array without the fields of some names. -/
def itemsWithoutFields (names : List String) : List Json → List Json
  | [] => []
  | item :: items => withoutFields names item :: itemsWithoutFields names items

/-- The fields of an object without those of some names. -/
def fieldsWithoutFields (names : List String) : List (String × Json) → List (String × Json)
  | [] => []
  | (name, value) :: fields =>
    if name ∈ names then fieldsWithoutFields names fields
    else (name, withoutFields names value) :: fieldsWithoutFields names fields

end

end Json

namespace Node

/-- No number of a tree is something else than a number. -/
def NaNFree (node : Node) : Prop := ∀ leaf ∈ node.leaves, leaf.1 ≠ .nan

instance (node : Node) : Decidable node.NaNFree :=
  inferInstanceAs (Decidable (∀ leaf ∈ node.leaves, leaf.1 ≠ .nan))

/-- The tree that stands for all trees of its shape, names, operators and values. -/
def representative : Node → Node
  | .number value _ => .number value.representative ⟨0, 0⟩
  | .binary left operator right _ =>
    .binary left.representative operator right.representative ⟨0, 0⟩
  | .binding name initial _ => .binding name initial.representative ⟨0, 0⟩

section Constructors

variable {left right left' right' initial initial' : Node} {operator operator' : Operator}
  {name name' : String} {here there : Location}

theorem binary_beq_binary :
    binary left operator right here == binary left' operator' right' there ↔
      operator = operator' ∧ left == left' ∧ right == right' := by
  change (left == left' && operator = operator' && right == right') = true ↔ _
  simp only [Bool.and_eq_true, decide_eq_true_eq]
  tauto

theorem binding_beq_binding :
    binding name initial here == binding name' initial' there ↔
      name = name' ∧ initial == initial' := by
  change (name = name' && initial == initial') = true ↔ _
  simp only [Bool.and_eq_true, decide_eq_true_eq]

theorem nanFree_binary :
    (binary left operator right here).NaNFree ↔ left.NaNFree ∧ right.NaNFree :=
  List.forall_mem_append

end Constructors

/-- Two trees are equal if the same tree stands for them, and a tree with something in it that is no
    number is equal to nothing. -/
theorem beq_iff {node other : Node} :
    node == other ↔ node.NaNFree ∧ node.representative = other.representative := by
  induction node generalizing other with
  | number value location =>
    cases other with
    | number value' location' =>
      change value == value' ↔ _
      rw [Binary64.beq_iff]
      simp [NaNFree, leaves, representative]
    | binary | binding => exact iff_of_false Bool.false_ne_true (by simp [representative])
  | binary left operator right location ihleft ihright =>
    cases other with
    | binary left' operator' right' location' =>
      rw [binary_beq_binary, ihleft, ihright, nanFree_binary]
      simp only [representative, binary.injEq]
      tauto
    | number | binding => exact iff_of_false Bool.false_ne_true (by simp [representative])
  | binding name initial location ih =>
    cases other with
    | binding name' initial' location' =>
      rw [binding_beq_binding, ih]
      simp only [representative, binding.injEq, NaNFree, leaves]
      tauto
    | number | binary => exact iff_of_false Bool.false_ne_true (by simp [representative])

/-- Trees without anything that is no number fall into classes of equal ones. -/
theorem beq_equivalence :
    Equivalence fun node other : { node : Node // node.NaNFree } => node.val == other.val := by
  have hclass (node other : { node : Node // node.NaNFree }) :
      node.val == other.val ↔ node.val.representative = other.val.representative :=
    beq_iff.trans (and_iff_right node.property)
  simp only [hclass]
  exact ⟨fun _ => rfl, Eq.symm, Eq.trans⟩

section Documents

/-- The names of the fields that say where a node begins. -/
def placeNames : List String := ["line", "col"]

/-- The document of a tree without its places. -/
def bareDocument (node : Node) : Json := node.document.withoutFields placeNames

variable {left right left' right' initial initial' : Node} {operator operator' : Operator}
  {value value' : Binary64} {name name' : String} {here there : Location}

theorem bareDocument_number : (number value here).bareDocument =
    .object [("kind", .text "number"), ("value", .real value)] := by
  simp [bareDocument, document, locationFields, Json.withoutFields, Json.fieldsWithoutFields,
    placeNames]

theorem bareDocument_binary : (binary left operator right here).bareDocument =
    .object [("kind", .text "binary"), ("operator", .text operator.symbol),
      ("left", left.bareDocument), ("right", right.bareDocument)] := by
  simp [bareDocument, document, locationFields, Json.withoutFields, Json.fieldsWithoutFields,
    placeNames]

theorem bareDocument_binding : (binding name initial here).bareDocument =
    .object [("kind", .text "let"), ("name", .text name), ("initial", initial.bareDocument)] := by
  simp [bareDocument, document, locationFields, Json.withoutFields, Json.fieldsWithoutFields,
    placeNames]

private theorem bareDocument_number_beq :
    (number value here).bareDocument == (number value' there).bareDocument ↔ value == value' := by
  change Json.beq _ _ ↔ _
  simp [bareDocument_number, Json.beq, Json.fieldsAmong, List.lookup_cons]

private theorem bareDocument_binary_beq :
    (binary left operator right here).bareDocument ==
        (binary left' operator' right' there).bareDocument ↔
      operator = operator' ∧ left.bareDocument == left'.bareDocument ∧
        right.bareDocument == right'.bareDocument := by
  have hsymbol : operator.symbol = operator'.symbol ↔ operator = operator' :=
    ⟨Operator.symbol_injective, congrArg Operator.symbol⟩
  change Json.beq _ _ ↔ _ ∧ Json.beq _ _ ∧ Json.beq _ _
  simp [bareDocument_binary, Json.beq, Json.fieldsAmong, List.lookup_cons, hsymbol]

private theorem bareDocument_binding_beq :
    (binding name initial here).bareDocument == (binding name' initial' there).bareDocument ↔
      name = name' ∧ initial.bareDocument == initial'.bareDocument := by
  change Json.beq _ _ ↔ _ ∧ Json.beq _ _
  simp [bareDocument_binding, Json.beq, Json.fieldsAmong, List.lookup_cons]

/-- Documents of nodes of different sorts have different numbers of fields. -/
theorem beq_iff_of_length_ne {fields others : List (String × Json)} {node other : Node}
    (hne : (node == other) = false) (hnode : node.bareDocument = .object fields)
    (hother : other.bareDocument = .object others) (hlength : fields.length ≠ others.length) :
    node == other ↔ node.bareDocument == other.bareDocument := by
  rw [hne, hnode, hother]
  change _ ↔ Json.beq _ _
  simp [Json.beq, hlength]

/-- Trees are equal if and only if their documents without places are. -/
theorem beq_iff_bareDocument_beq {node other : Node} :
    node == other ↔ node.bareDocument == other.bareDocument := by
  induction node generalizing other with
  | number value location =>
    cases other with
    | number => exact bareDocument_number_beq.symm
    | binary => exact beq_iff_of_length_ne rfl bareDocument_number bareDocument_binary (by simp)
    | binding => exact beq_iff_of_length_ne rfl bareDocument_number bareDocument_binding (by simp)
  | binary left operator right location ihleft ihright =>
    cases other with
    | binary => rw [binary_beq_binary, bareDocument_binary_beq, ihleft, ihright]
    | number => exact beq_iff_of_length_ne rfl bareDocument_binary bareDocument_number (by simp)
    | binding => exact beq_iff_of_length_ne rfl bareDocument_binary bareDocument_binding (by simp)
  | binding name initial location ih =>
    cases other with
    | binding => rw [binding_beq_binding, bareDocument_binding_beq, ih]
    | number => exact beq_iff_of_length_ne rfl bareDocument_binding bareDocument_number (by simp)
    | binary => exact beq_iff_of_length_ne rfl bareDocument_binding bareDocument_binary (by simp)

/-- Places are no part of a document without them. -/
theorem Match.bareDocument_eq {places : Location → Location → Prop} {node other : Node}
    (h : node.Match places other) : node.bareDocument = other.bareDocument := by
  induction h with
  | number value _ => rw [bareDocument_number, bareDocument_number]
  | binary operator _ _ _ ihleft ihright =>
    rw [bareDocument_binary, bareDocument_binary, ihleft, ihright]
  | binding name _ _ ih => rw [bareDocument_binding, bareDocument_binding, ih]

end Documents

/-- Equality of trees is that of their documents without places, at every depth. Among trees of
    numbers alone it is an equivalence. It does not change when places do, on either side and in any
    node, and it comes down to the parts of a node: operators or names that agree, and equal
    trees below. -/
theorem beq_structural :
    (∀ node other : Node, node == other ↔
      node.document.withoutFields ["line", "col"] == other.document.withoutFields ["line", "col"]) ∧
    (Equivalence fun node other : { node : Node // node.NaNFree } => node.val == other.val) ∧
    (∀ node node' other other' : Node, node.Match (fun _ _ => True) node' →
      other.Match (fun _ _ => True) other' → (node == other) = (node' == other')) ∧
    (∀ left right left' right' operator operator' here there,
      binary left operator right here == binary left' operator' right' there ↔
        operator = operator' ∧ left == left' ∧ right == right') ∧
    ∀ name name' initial initial' here there,
      binding name initial here == binding name' initial' there ↔
        name = name' ∧ initial == initial' := by
  refine ⟨fun _ _ => beq_iff_bareDocument_beq, beq_equivalence, ?_,
    fun _ _ _ _ _ _ _ _ => binary_beq_binary, fun _ _ _ _ _ _ => binding_beq_binding⟩
  intro node node' other other' hnode hother
  rw [Bool.eq_iff_iff, beq_iff_bareDocument_beq, beq_iff_bareDocument_beq, hnode.bareDocument_eq,
    hother.bareDocument_eq]

/-- Two trees with a binding in the place of an operand. They differ in the sign of a zero and in
    their places. -/
theorem beq_structural_of_zeros :
    let tree (zero : Binary64) (here there : Location) := Node.binary
      (.binding "x" (.number zero there) here) .times
      (.number (.ofNumeral false "2.5".toList 0) there) here
    let node := tree (.ofRank false 0) ⟨1, 1⟩ ⟨2, 9⟩
    let moved := tree (.ofRank false 0) ⟨0, 0⟩ ⟨7, 3⟩
    let other := tree (.ofRank true 0) ⟨5, 1⟩ ⟨5, 4⟩
    node.NaNFree ∧ node.Match (fun _ _ => True) moved ∧ other.Match (fun _ _ => True) other ∧
      node ≠ other ∧ node == other ∧ moved == other ∧
      node.document.withoutFields ["line", "col"] ==
        other.document.withoutFields ["line", "col"] := by
  intro tree node moved other
  have hmoved (zero : Binary64) (here there here' there' : Location) :
      (tree zero here there).Match (fun _ _ => True) (tree zero here' there') :=
    .binary _ (.binding _ (.number _ trivial) trivial) (.number _ trivial) trivial
  have hequal : node == other := by decide +kernel
  obtain ⟨hdocuments, -, hplaces, -⟩ := beq_structural
  refine ⟨by decide +kernel, hmoved _ _ _ _ _, hmoved _ _ _ _ _, by decide +kernel, hequal, ?_,
    (hdocuments node other).1 hequal⟩
  rw [← hplaces node moved other other (hmoved _ _ _ _ _) (hmoved _ _ _ _ _)]
  exact hequal

end Node

end LetArith
