import LetArith.Proofs.Json.RoundTrip
import LetArith.Proofs.NodePlaces
import LetArith.Proofs.TokenListing

namespace LetArith

namespace Binary64

/-- A number without a minus sign. -/
def Unsigned (x : Binary64) : Prop :=
  x ≠ .nan ∧ x ≠ .infinite true ∧ ∀ rank, x ≠ .finite true rank

/-- The characters of a number in a listing: those of finite numbers, and the letters of the words
    for what is not finite. -/
theorem numeric_or_letter_of_mem_text (x : Binary64) :
    ∀ c ∈ (x.text listingFormat).toList, Json.Grammar.Numeric c ∨ c ∈ ['i', 'n', 'f', 'a'] := by
  cases x with
  | finite negative rank =>
    have hmem := Json.text_mem_number listingFormat negative rank
    exact fun c hc => .inl (Json.Grammar.within_number _ hmem c hc)
  | infinite negative => cases negative <;> simp [text, listingFormat, Json.Grammar.Numeric]
  | nan => simp [text, listingFormat, Json.Grammar.Numeric]

private theorem not_numeric_of_mem : ∀ c ∈ ['n', ',', ')'], ¬ Json.Grammar.Numeric c := by
  simp [Json.Grammar.Numeric]

private theorem mark_notMem_text (x : Binary64) :
    ∀ mark ∈ [',', ')'], mark ∉ (x.text listingFormat).toList := by
  intro mark hmark hmem
  rcases numeric_or_letter_of_mem_text x mark hmem with hnumeric | hletter
  · exact not_numeric_of_mem mark (List.mem_cons_of_mem _ hmark) hnumeric
  · have hapart : ∀ mark ∈ [',', ')'], mark ∉ ['i', 'n', 'f', 'a'] := by simp
    exact hapart mark hmark hletter

private theorem unbroken_text (x : Binary64) : Text.Unbroken (x.text listingFormat).toList := by
  cases x with
  | finite negative rank =>
    have hmem := Json.text_mem_number listingFormat negative rank
    exact Text.unbroken_of_numeric (Json.Grammar.within_number _ hmem)
  | infinite negative => cases negative <;> decide
  | nan => decide

/-- What is no finite number. -/
def nonFinite : List Binary64 := [.infinite false, .infinite true, .nan]

theorem finite_or_mem_nonFinite (x : Binary64) :
    (∃ negative rank, x = .finite negative rank) ∨ x ∈ nonFinite := by
  cases x with
  | finite negative rank => exact .inl ⟨negative, rank, rfl⟩
  | infinite negative => cases negative <;> simp [nonFinite]
  | nan => simp [nonFinite]

/-- The words for what is not finite differ by a letter from all numbers. -/
theorem mem_text_iff (x : Binary64) : 'n' ∈ (x.text listingFormat).toList ↔ x ∈ nonFinite := by
  have hwords : ∀ x ∈ nonFinite, 'n' ∈ (x.text listingFormat).toList := by decide
  refine ⟨fun hn => ?_, hwords x⟩
  rcases finite_or_mem_nonFinite x with ⟨negative, rank, rfl⟩ | hx
  · have hmem := Json.text_mem_number listingFormat negative rank
    exact absurd (Json.Grammar.within_number _ hmem _ hn) (not_numeric_of_mem _ (by decide))
  · exact hx

/-- No two numbers have one text. -/
theorem text_injective {x y : Binary64} (h : x.text listingFormat = y.text listingFormat) :
    x = y := by
  have hsame := mem_text_iff x
  rw [h, mem_text_iff y] at hsame
  rcases finite_or_mem_nonFinite x with ⟨negative, rank, rfl⟩ | hx
  · rcases finite_or_mem_nonFinite y with ⟨negative', rank', rfl⟩ | hy
    · obtain ⟨-, -, hword⟩ := Json.wordDenotes_finite listingFormat negative rank
      obtain ⟨-, -, hword'⟩ := Json.wordDenotes_finite listingFormat negative' rank'
      rw [h, hword'] at hword
      exact (Json.real.inj (Option.some.inj hword)).symm
    · exact absurd (hsame.1 hy) (by simp [nonFinite])
  · have hwords : ∀ x ∈ nonFinite, ∀ y ∈ nonFinite,
        x.text listingFormat = y.text listingFormat → x = y := by decide
    exact hwords x hx y (hsame.2 hx) h

private theorem unsigned_ofRank (rank : Nat) : (ofRank false rank).Unsigned := by
  unfold ofRank
  split <;> simp [Unsigned]

/-- Numbers without a minus sign are equal only if they are the same. -/
theorem Unsigned.eq_of_beq {x y : Binary64} (hx : x.Unsigned) (hy : y.Unsigned) (h : x == y) :
    x = y := by
  change Binary64.beq x y at h
  cases x with
  | nan => exact absurd rfl hx.1
  | finite negative rank =>
    cases y with
    | finite negative' rank' =>
      cases negative with
      | true => exact absurd rfl (hx.2.2 rank)
      | false =>
        cases negative' with
        | true => exact absurd rfl (hy.2.2 rank')
        | false =>
          have hrank : rank = rank' := by simpa [Binary64.beq] using h
          rw [hrank]
    | infinite | nan => cases h
  | infinite negative =>
    cases y with
    | infinite negative' => rw [of_decide_eq_true h]
    | finite | nan => cases h

end Binary64

namespace Node

/-- An expression of numbers without a minus sign. -/
def Unsigned (node : Node) : Prop := ∀ leaf ∈ node.leaves, leaf.1.Unsigned

theorem toList_listing_number (value : Binary64) (location : Location) :
    (number value location).listing.toList =
      "Number(".toList ++ ((value.text Binary64.listingFormat).toList ++ [')']) := by
  simp [listing]

theorem toList_listing_binary (left : Node) (operator : Operator) (right : Node)
    (location : Location) :
    (binary left operator right location).listing.toList = "Binary(".toList ++
      (left.listing.toList ++ (',' :: ' ' :: (operator.symbol.toList ++
        (',' :: ' ' :: (right.listing.toList ++ [')']))))) := by
  simp [listing]

theorem toList_listing_binding (name : String) (initial : Node) (location : Location) :
    (binding name initial location).listing.toList = "Let(".toList ++
      (name.toList ++ (',' :: ' ' :: (initial.listing.toList ++ [')']))) := by
  simp [listing]

/-- The listing of an expression ends where the expression does: whatever stands behind it, it is
    the listing of no other expression. -/
theorem listing_append_inj {node other : Node} {behind more : List Char} (hnormal : node.Normal)
    (hother : other.Normal)
    (h : node.listing.toList ++ behind = other.listing.toList ++ more) :
    node.Match (fun _ _ => True) other ∧ behind = more := by
  induction node generalizing other behind more with
  | number value location =>
    cases other with
    | number value' location' =>
      simp only [toList_listing_number, List.append_assoc, List.append_cancel_left_eq,
        List.singleton_append] at h
      have hclosing (x : Binary64) := x.mark_notMem_text ')' (by decide)
      obtain ⟨hvalue, hbehind⟩ := Text.append_mark_inj (hclosing value) (hclosing value') h
      rw [Binary64.text_injective (String.toList_inj.1 hvalue)]
      exact ⟨.number _ trivial, hbehind⟩
    | binary left operator right location' =>
      rw [toList_listing_number, toList_listing_binary] at h
      simp at h
    | binding => exact hother.elim
  | binary left operator right location ihleft ihright =>
    cases other with
    | number value' location' =>
      rw [toList_listing_number, toList_listing_binary] at h
      simp at h
    | binary left' operator' right' location' =>
      simp only [toList_listing_binary, List.append_assoc, List.append_cancel_left_eq,
        List.cons_append, List.nil_append] at h
      obtain ⟨hleft, h⟩ := ihleft hnormal.1 hother.1 h
      have hcomma (operator : Operator) : ',' ∉ operator.symbol.toList := by
        cases operator <;> decide
      obtain ⟨hsymbol, h⟩ := Text.append_mark_inj (hcomma operator) (hcomma operator')
        (List.tail_eq_of_cons_eq (List.tail_eq_of_cons_eq h))
      obtain ⟨hright, h⟩ := ihright hnormal.2.1 hother.2.1 (List.tail_eq_of_cons_eq h)
      rw [Operator.symbol_injective (String.toList_inj.1 hsymbol)]
      exact ⟨.binary _ hleft hright trivial, List.tail_eq_of_cons_eq h⟩
    | binding => exact hother.elim
  | binding => exact hnormal.elim

theorem Proper.not_mem_name {name : String} {initial : Node} {location : Location}
    (hproper : (binding name initial location).Proper) {c : Char} (hc : Text.isLetter c = false) :
    c ∉ name.toList := by
  intro hmem
  rw [hproper.1.2.1 c hmem] at hc
  cases hc

/-- No two statements but for their places have one listing. -/
theorem match_of_listing_eq {node other : Node} (hproper : node.Proper) (hother : other.Proper)
    (h : node.listing = other.listing) : node.Match (fun _ _ => True) other := by
  cases node with
  | binding name initial location =>
    cases other with
    | binding name' initial' location' =>
      have hlist := congrArg String.toList h
      rw [toList_listing_binding, toList_listing_binding] at hlist
      have hcomma : Text.isLetter ',' = false := by decide +kernel
      obtain ⟨hname, hbehind⟩ := Text.append_mark_inj (hproper.not_mem_name hcomma)
        (hother.not_mem_name hcomma) (List.append_cancel_left hlist)
      rw [String.toList_inj.1 hname]
      exact .binding _ (listing_append_inj hproper.2 hother.2 (List.tail_eq_of_cons_eq hbehind)).1
        trivial
    | number | binary => exact hother.elim
  | number | binary => exact hproper.elim

/-- Where no number has a minus sign, equal trees match. -/
theorem match_of_beq {node other : Node} (hnode : node.Unsigned) (hother : other.Unsigned)
    (h : node == other) : node.Match (fun _ _ => True) other := by
  change Node.beq node other at h
  induction node generalizing other with
  | number value location =>
    cases other with
    | number value' location' =>
      have hvalue := (hnode _ (List.mem_singleton_self _)).eq_of_beq
        (hother _ (List.mem_singleton_self _)) h
      change value = value' at hvalue
      rw [hvalue]
      exact .number _ trivial
    | binary | binding => cases h
  | binary left operator right location ihleft ihright =>
    cases other with
    | binary left' operator' right' location' =>
      obtain ⟨hleft, hright⟩ := List.forall_mem_append.1 hnode
      obtain ⟨hleft', hright'⟩ := List.forall_mem_append.1 hother
      simp only [Node.beq, Bool.and_eq_true, decide_eq_true_eq] at h
      obtain ⟨⟨hl, rfl⟩, hr⟩ := h
      exact .binary _ (ihleft hleft hleft' hl) (ihright hright hright' hr) trivial
    | number | binding => cases h
  | binding name initial location ih =>
    cases other with
    | binding name' initial' location' =>
      simp only [Node.beq, Bool.and_eq_true, decide_eq_true_eq] at h
      obtain ⟨rfl, hinitial⟩ := h
      exact .binding _ (ih hnode hother hinitial) trivial
    | number | binary => cases h

private theorem unbroken_listing_of_normal {node : Node} (hnormal : node.Normal) :
    Text.Unbroken node.listing.toList := by
  have hcomma : Text.Unbroken [',', ' '] := by decide
  have hclosing : Text.Unbroken [')'] := by decide
  induction node with
  | number value location =>
    rw [toList_listing_number]
    have hopening : Text.Unbroken "Number(".toList := by decide
    exact hopening.append (value.unbroken_text.append hclosing)
  | binary left operator right location ihleft ihright =>
    rw [toList_listing_binary]
    have hopening : Text.Unbroken "Binary(".toList := by decide
    have hsymbol : Text.Unbroken operator.symbol.toList := by cases operator <;> decide
    exact hopening.append ((ihleft hnormal.1).append (hcomma.append
      (hsymbol.append (hcomma.append ((ihright hnormal.2.1).append hclosing)))))
  | binding => exact hnormal.elim

/-- A statement fills a row of a listing. -/
theorem Proper.fillsRow_listing {node : Node} (hproper : node.Proper) :
    Text.FillsRow node.listing.toList := by
  cases node with
  | binding name initial location =>
    have hopening : Text.Unbroken "Let(".toList := by decide
    have hname : Text.Solid name.toList :=
      fun c hc => Text.isBlank_eq_false_of_isLetter (hproper.1.2.1 c hc)
    have hcomma : Text.Unbroken [',', ' '] := by decide
    have hclosing : Text.Unbroken [')'] := by decide
    rw [toList_listing_binding]
    constructor
    · exact hopening.append (hname.unbroken.append (hcomma.append
        ((unbroken_listing_of_normal hproper.2).append hclosing)))
    · exact List.append_ne_nil_of_left_ne_nil (by decide) _
  | number | binary => exact hproper.elim

theorem match_of_lines_eq {nodes others : List Node} (hproper : ∀ node ∈ nodes, node.Proper)
    (hothers : ∀ node ∈ others, node.Proper) (h : lines nodes = lines others) :
    List.Forall₂ (Match fun _ _ => True) nodes others := by
  have hlistings := Text.map_eq_of_listing_eq
    (fun node hnode => (hproper node hnode).fillsRow_listing)
    (fun node hnode => (hothers node hnode).fillsRow_listing) h
  refine forall₂_imp_of_mem (map_eq_map_iff_forall₂.1 hlistings) fun node hnode other hother => ?_
  exact match_of_listing_eq (hproper node hnode) (hothers other hother)

end Node

/-- Every number of a program that was read is what some literal denotes, and no literal has a
    sign. -/
theorem unsigned_of_parse {text : String} {nodes : List Node} (hparse : parse text = .ok nodes) :
    ∀ node ∈ nodes, node.Unsigned := by
  obtain ⟨phrases, -, rfl, -⟩ := Phrase.exists_laidOut_of_parse hparse
  intro node hnode leaf hleaf
  have hmem := List.mem_flatMap.2 ⟨node, hnode, hleaf⟩
  rw [Phrase.leaves_row] at hmem
  obtain ⟨token, -, rfl⟩ := List.mem_map.1 hmem
  exact Binary64.unsigned_ofRank _

/-- Two programs that were read are listed alike if and only if they are equal, and then they have the
    same statements with the same trees. A listing has one row to a statement. No number in a program
    has a minus sign, and all of them are numbers. -/
theorem tree_listing_faithful {text other : String} {nodes others : List Node}
    (hparse : parse text = .ok nodes) (hother : parse other = .ok others) :
    (Node.lines nodes = Node.lines others ↔ nodes == others) ∧
      (Node.lines nodes = Node.lines others ↔
        List.Forall₂ (Node.Match fun _ _ => True) nodes others) ∧
      Text.rows (Node.lines nodes).toList = nodes.map (fun node => node.listing.toList) ∧
      (Node.lines nodes).toList.countP (· ∈ Text.rowEnds) = nodes.length - 1 ∧
      ∀ node ∈ nodes, ∀ leaf ∈ node.leaves,
        leaf.1 ≠ .nan ∧ leaf.1 ≠ .infinite true ∧ ∀ rank, leaf.1 ≠ .finite true rank := by
  have hproper := (mem_spellings_of_parse hparse).1
  have hothers := (mem_spellings_of_parse hother).1
  obtain ⟨hrows, hcount⟩ :=
    Text.rows_listing fun node hnode => (hproper node hnode).fillsRow_listing
  have hmatch : Node.lines nodes = Node.lines others ↔
      List.Forall₂ (Node.Match fun _ _ => True) nodes others :=
    ⟨Node.match_of_lines_eq hproper hothers, Node.lines_eq_of_match⟩
  refine ⟨?_, hmatch, hrows, hcount, unsigned_of_parse hparse⟩
  rw [hmatch]
  constructor
  · exact fun hnodes => Node.beq_of_match hnodes (beq_self_of_parse hparse)
  · intro hbeq
    refine forall₂_imp_of_mem (forall₂_of_beq hbeq) fun node hnode other' hother' => ?_
    exact Node.match_of_beq (unsigned_of_parse hparse node hnode)
      (unsigned_of_parse hother other' hother')

/-- Two spellings of one program, which differ in the places of its numbers. -/
theorem tree_listing_faithful_of_two_spellings :
    let program (first second third : Location) := [
      Node.binding "x"
        (.binary (.binary (.number (.ofNumeral false "10".toList 0) first) .minus
          (.number (.ofNumeral false "2".toList 0) second) first) .minus
          (.number (.ofNumeral false "3".toList 0) third) first) ⟨1, 1⟩]
    let spaced := program ⟨1, 9⟩ ⟨1, 14⟩ ⟨1, 18⟩
    let dense := program ⟨1, 7⟩ ⟨1, 13⟩ ⟨1, 15⟩
    parse "let x = 10 - 2 - 3" = .ok spaced ∧ parse "let x=1_0.0-2-3." = .ok dense ∧
      spaced == dense ∧ Node.lines spaced = Node.lines dense ∧
      (Text.rows (Node.lines spaced).toList).length = 1 := by
  intro program spaced dense
  have hspaced : parse "let x = 10 - 2 - 3" = .ok spaced := by decide +kernel
  have hdense : parse "let x=1_0.0-2-3." = .ok dense := by decide +kernel
  obtain ⟨hequal, -, hrows, -⟩ := tree_listing_faithful hspaced hdense
  have hbeq : spaced == dense := by decide +kernel
  exact ⟨hspaced, hdense, hbeq, hequal.2 hbeq, by rw [hrows]; rfl⟩

end LetArith
