import LetArith.Proofs.Adjacent
import LetArith.Proofs.Normal

namespace LetArith

open scoped Computability
open Words

namespace Text

/-- Any number of blanks. -/
def blanks : Language Char := (oneOf fun c => isBlank c)∗

/-- One blank or more. -/
def someBlanks : Language Char := oneOf (fun c => isBlank c) * blanks

theorem mem_blanks_iff {text : List Char} : text ∈ blanks ↔ Blank text := mem_kstar_oneOf_iff

theorem mem_someBlanks_iff {text : List Char} : text ∈ someBlanks ↔ Blank text ∧ text ≠ [] := by
  cases text with
  | nil => simpa [someBlanks] using nil_notMem_oneOf_mul _ _
  | cons c text => simp [someBlanks, cons_mem_oneOf_mul, mem_blanks_iff, Blank]

end Text

open Text (blanks someBlanks)

/-- The numerals that denote a value. -/
def Numeral.denoting (value : Binary64) : Language Char :=
  {word | word ∈ Numeral.numeral ∧
    Binary64.ofNumeral false (Lexeme.withoutSeparators word) 0 == value}

namespace Node

/-- How an operator and the leaf behind it are written, with blanks before both. -/
def otherLeafSpellings (leaf : Operator × Binary64) : Language Char :=
  blanks * {leaf.1.symbol.toList} * (blanks * Numeral.denoting leaf.2)

/-- How an expression is written behind blanks: its leaves and operators in their order. -/
def expressionSpellings (node : Node) : Language Char :=
  blanks * Numeral.denoting node.firstLeaf * (node.otherLeaves.map otherLeafSpellings).prod

/-- How a binding is written behind blanks. -/
def statementSpellings : Node → Language Char
  | .binding name initial _ =>
    blanks * {"let".toList} * (someBlanks * {name.toList}) * (blanks * {"=".toList}) *
      initial.expressionSpellings
  | .number _ _ | .binary _ _ _ _ => 0

/-- How a program is written: its bindings in their order, and blanks behind them. -/
def spellings (nodes : List Node) : Language Char :=
  (nodes.map statementSpellings).prod * blanks

/-- A binding of a name that is no keyword to an expression in normal form. -/
def Proper : Node → Prop
  | .binding name initial _ =>
    (name.toList ≠ [] ∧ (∀ c ∈ name.toList, Text.isLetter c) ∧ name ≠ "let") ∧ initial.Normal
  | .number _ _ | .binary _ _ _ _ => False

end Node

/-- A kind of lexeme with a literal. -/
abbrev Word := Kind × String

def Piece.word (piece : Piece) : Word := (piece.lexeme.kind, piece.lexeme.literal)

/-- The texts of worded pieces whose words form a row of a language. Texts written one after another
    belong to rows one after another. -/
def readAs (rows : Language Word) : Language Char :=
  {text | ∃ pieces : List Piece, (∀ piece ∈ pieces, piece.Worded) ∧
    pieces.flatMap Piece.text = text ∧ pieces.map Piece.word ∈ rows}

namespace readAs

theorem one : readAs 1 = 1 := by
  apply Set.ext
  intro text
  constructor
  · rintro ⟨pieces, -, rfl, hrow⟩
    obtain rfl := List.map_eq_nil_iff.1 hrow
    exact rfl
  · rintro rfl
    exact ⟨[], by simp, rfl, rfl⟩

theorem mul (rows others : Language Word) : readAs (rows * others) = readAs rows * readAs others := by
  apply Set.ext
  intro text
  constructor
  · rintro ⟨pieces, hworded, rfl, hrow⟩
    obtain ⟨front, hfront, back, hback, happend⟩ := Language.mem_mul.1 hrow
    obtain ⟨before, behind, rfl, rfl, rfl⟩ := List.map_eq_append_iff.1 happend.symm
    rw [List.forall_mem_append] at hworded
    rw [List.flatMap_append]
    exact Language.append_mem_mul ⟨before, hworded.1, rfl, hfront⟩ ⟨behind, hworded.2, rfl, hback⟩
  · intro htext
    obtain ⟨_, ⟨before, hbefore, rfl, hfront⟩, _, ⟨behind, hbehind, rfl, hback⟩, rfl⟩ :=
      Language.mem_mul.1 htext
    refine ⟨before ++ behind, List.forall_mem_append.2 ⟨hbefore, hbehind⟩, List.flatMap_append, ?_⟩
    rw [List.map_append]
    exact Language.append_mem_mul hfront hback

theorem prod (rows : List (Language Word)) : readAs rows.prod = (rows.map readAs).prod := by
  induction rows with
  | nil => exact one
  | cons row rows ih => rw [List.prod_cons, mul, ih, List.map_cons, List.prod_cons]

private theorem mem_oneOf_iff {p : Word → Prop} {text : List Char} :
    text ∈ readAs (oneOf p) ↔ ∃ piece : Piece, piece.Worded ∧ piece.text = text ∧ p piece.word := by
  constructor
  · rintro ⟨pieces, hworded, rfl, word, hword, hrow⟩
    obtain ⟨piece, _, rfl, rfl, hnil⟩ := List.map_eq_cons_iff.1 hrow
    obtain rfl := List.map_eq_nil_iff.1 hnil
    exact ⟨piece, hworded piece (by simp), by simp, hword⟩
  · rintro ⟨piece, hworded, rfl, hword⟩
    exact ⟨[piece], by simpa using hworded, by simp, piece.word, hword, rfl⟩

/-- The texts of one lexeme other than a name. -/
theorem oneOf_eq {p : Word → Prop} {words : Language Char}
    (hkind : ∀ kind literal, p (kind, literal) → kind ≠ .identifier)
    (hwords : ∀ text, text ∈ words ↔
      ∃ kind : Kind, text ∈ kind.lexemes ∧ p (kind, Lexeme.literal ⟨kind, text⟩)) :
    readAs (oneOf p) = blanks * words := by
  apply Set.ext
  intro text
  constructor
  · intro htext
    obtain ⟨piece, hworded, rfl, hword⟩ := mem_oneOf_iff.1 htext
    exact Language.append_mem_mul (Text.mem_blanks_iff.2 hworded.blank)
      ((hwords _).2 ⟨_, hworded.mem_lexemes, hword⟩)
  · intro htext
    obtain ⟨before, hbefore, word, hword, rfl⟩ := Language.mem_mul.1 htext
    obtain ⟨kind, hmem, hp⟩ := (hwords word).1 hword
    refine mem_oneOf_iff.2 ⟨⟨before, ⟨kind, word⟩⟩, ⟨Text.mem_blanks_iff.1 hbefore, hmem, ?_⟩, rfl, hp⟩
    exact fun hidentifier => absurd hidentifier (hkind kind _ hp)

end readAs

/-- The words of one number of a value. -/
def numberRows (value : Binary64) : Language Word :=
  oneOf fun word => word.1 = .number ∧ Binary64.ofNumeral false word.2.toList 0 == value

def operatorRows (operator : Operator) : Language Word :=
  oneOf fun word => word.1.operator? = some operator

namespace Node

/-- The words of an operator and the number behind it. -/
def otherLeafRows (leaf : Operator × Binary64) : Language Word :=
  operatorRows leaf.1 * numberRows leaf.2

/-- The words of an expression: its leaves and operators in their order. -/
def expressionRows (node : Node) : Language Word :=
  numberRows node.firstLeaf * (node.otherLeaves.map otherLeafRows).prod

/-- The words of a binding. -/
def statementRows : Node → Language Word
  | .binding name initial _ =>
    oneOf (fun word => word.1 = .letKeyword) * oneOf (· = (.identifier, name)) *
      oneOf (fun word => word.1 = .assign) * initial.expressionRows
  | .number _ _ | .binary _ _ _ _ => 0

end Node

theorem readAs_numberRows (value : Binary64) :
    readAs (numberRows value) = blanks * Numeral.denoting value := by
  apply readAs.oneOf_eq
  · rintro kind literal ⟨rfl, -⟩
    decide
  · intro text
    constructor
    · rintro ⟨hnumeral, hvalue⟩
      refine ⟨.number, hnumeral, rfl, ?_⟩
      rwa [Lexeme.literal, if_pos rfl, String.toList_ofList]
    · rintro ⟨kind, hmem, rfl, hvalue⟩
      rw [Lexeme.literal, if_pos rfl, String.toList_ofList] at hvalue
      exact ⟨hmem, hvalue⟩

private theorem readAs_operatorRows (operator : Operator) :
    readAs (operatorRows operator) = blanks * {operator.symbol.toList} := by
  apply readAs.oneOf_eq
  · rintro kind literal hoperator rfl
    cases hoperator
  · intro text
    constructor
    · rintro rfl
      cases operator with
      | plus => exact ⟨.plus, singleton_mem_single _, rfl⟩
      | minus => exact ⟨.minus, singleton_mem_single _, rfl⟩
      | times => exact ⟨.times, singleton_mem_single _, rfl⟩
      | divide => exact ⟨.divide, singleton_mem_single _, rfl⟩
    · rintro ⟨kind, hmem, hoperator⟩
      cases kind with
      | plus | minus | times | divide =>
        obtain ⟨_, rfl, rfl⟩ := hmem
        obtain rfl := Option.some.inj hoperator
        rfl
      | _ => cases hoperator

private theorem readAs_keyword :
    readAs (oneOf fun word => word.1 = .letKeyword) = blanks * {"let".toList} := by
  apply readAs.oneOf_eq
  · rintro kind literal rfl
    decide
  · intro text
    constructor
    · exact fun hlet => ⟨.letKeyword, hlet, rfl⟩
    · rintro ⟨kind, hlet, rfl⟩
      exact hlet

private theorem readAs_assign :
    readAs (oneOf fun word => word.1 = .assign) = blanks * {"=".toList} := by
  apply readAs.oneOf_eq
  · rintro kind literal rfl
    decide
  · intro text
    constructor
    · rintro rfl
      exact ⟨.assign, singleton_mem_single _, rfl⟩
    · rintro ⟨kind, hmem, rfl⟩
      obtain ⟨_, rfl, rfl⟩ := hmem
      rfl

private theorem readAs_name {name : String} (hname : name.toList ∈ Kind.lexemes .identifier) :
    readAs (oneOf (· = (.identifier, name))) = someBlanks * {name.toList} := by
  apply Set.ext
  intro text
  constructor
  · intro htext
    obtain ⟨piece, hworded, rfl, hword⟩ := readAs.mem_oneOf_iff.1 htext
    obtain ⟨hkind, hliteral⟩ := Prod.mk.inj hword
    have hnumber : piece.lexeme.kind ≠ .number := by simp [hkind]
    rw [Lexeme.literal, if_neg hnumber] at hliteral
    rw [Piece.text, ← hliteral, String.toList_ofList]
    exact Language.append_mem_mul
      (Text.mem_someBlanks_iff.2 ⟨hworded.blank, hworded.apart hkind⟩) rfl
  · intro htext
    obtain ⟨before, hbefore, _, rfl, rfl⟩ := Language.mem_mul.1 htext
    obtain ⟨hblank, hne⟩ := Text.mem_someBlanks_iff.1 hbefore
    refine readAs.mem_oneOf_iff.2
      ⟨⟨before, ⟨.identifier, name.toList⟩⟩, ⟨hblank, hname, fun _ => hne⟩, rfl, ?_⟩
    simp [Piece.word, Lexeme.literal, String.ofList_toList]

namespace Node

theorem readAs_expressionRows (node : Node) :
    readAs node.expressionRows = node.expressionSpellings := by
  have hleaf (leaf : Operator × Binary64) :
      readAs (otherLeafRows leaf) = otherLeafSpellings leaf := by
    rw [otherLeafRows, otherLeafSpellings, readAs.mul, readAs_operatorRows, readAs_numberRows]
  rw [expressionRows, expressionSpellings, readAs.mul, readAs_numberRows, readAs.prod,
    List.map_map]
  simp only [Function.comp_def, hleaf]

theorem readAs_statementRows {node : Node} (hproper : node.Proper) :
    readAs node.statementRows = node.statementSpellings := by
  cases node with
  | binding name initial location =>
    obtain ⟨⟨hne, hletters, hlet⟩, -⟩ := hproper
    have hname : name.toList ∈ Kind.lexemes .identifier :=
      ⟨hne, hletters, fun heq => hlet (String.toList_inj.1 heq)⟩
    rw [statementRows, statementSpellings, readAs.mul, readAs.mul, readAs.mul, readAs_keyword,
      readAs_name hname, readAs_assign, readAs_expressionRows]
  | number | binary => cases hproper

/-- The spellings of a program are the texts of worded pieces whose words are those of its bindings,
    with blanks behind them. -/
theorem mem_spellings_iff {nodes : List Node} (hproper : ∀ node ∈ nodes, node.Proper)
    {text : List Char} :
    text ∈ spellings nodes ↔ ∃ (pieces : List Piece) (last : List Char),
      (∀ piece ∈ pieces, piece.Worded) ∧ Text.Blank last ∧
        pieces.flatMap Piece.text ++ last = text ∧
        pieces.map Piece.word ∈ (nodes.map statementRows).prod := by
  have hrows : readAs (nodes.map statementRows).prod = (nodes.map statementSpellings).prod := by
    rw [readAs.prod, List.map_map]
    congr 1
    exact List.map_congr_left fun node hnode => readAs_statementRows (hproper node hnode)
  rw [spellings, ← hrows]
  constructor
  · intro htext
    obtain ⟨_, ⟨pieces, hworded, rfl, hrow⟩, last, hlast, rfl⟩ := Language.mem_mul.1 htext
    exact ⟨pieces, last, hworded, Text.mem_blanks_iff.1 hlast, rfl, hrow⟩
  · rintro ⟨pieces, last, hworded, hlast, rfl, hrow⟩
    exact Language.append_mem_mul ⟨pieces, hworded, rfl, hrow⟩ (Text.mem_blanks_iff.2 hlast)

end Node

end LetArith
