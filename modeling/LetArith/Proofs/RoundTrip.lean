import LetArith.Proofs.Spans
import LetArith.Proofs.Spelling
import LetArith.Proofs.Verdict

namespace LetArith

open Words

theorem Words.map_mem_prod_iff {α β γ δ : Type} {f : α → β} {rows : γ → Language β}
    {row : δ → List α} {R : δ → γ → Prop}
    (hpart : ∀ x part, part.map f ∈ rows x ↔ ∃ y, row y = part ∧ R y x) {xs : List γ}
    {whole : List α} :
    whole.map f ∈ (xs.map rows).prod ↔ ∃ ys, ys.flatMap row = whole ∧ List.Forall₂ R ys xs := by
  induction xs generalizing whole with
  | nil =>
    constructor
    · intro hwhole
      obtain rfl := List.map_eq_nil_iff.1 hwhole
      exact ⟨[], rfl, .nil⟩
    · rintro ⟨ys, rfl, hys⟩
      obtain rfl := List.forall₂_nil_right_iff.1 hys
      exact rfl
  | cons x xs ih =>
    rw [List.map_cons, List.prod_cons]
    constructor
    · intro hwhole
      obtain ⟨front, hfront, back, hback, happend⟩ := Language.mem_mul.1 hwhole
      obtain ⟨before, behind, rfl, rfl, rfl⟩ := List.map_eq_append_iff.1 happend.symm
      obtain ⟨y, rfl, hy⟩ := (hpart x before).1 hfront
      obtain ⟨ys, rfl, hys⟩ := ih.1 hback
      exact ⟨y :: ys, rfl, .cons hy hys⟩
    · rintro ⟨_, rfl, hys⟩
      obtain ⟨y, others, hy, hothers, rfl⟩ := List.forall₂_cons_right_iff.1 hys
      rw [List.flatMap_cons, List.map_append]
      exact Language.append_mem_mul ((hpart x _).2 ⟨y, rfl, hy⟩) (ih.2 ⟨others, rfl, hothers⟩)

theorem Words.exists_cons_of_map_mem {α β : Type} {f : α → β} {p : β → Prop} {words : Language β}
    {row : List α} (h : row.map f ∈ oneOf p * words) :
    ∃ a others, row = a :: others ∧ p (f a) ∧ others.map f ∈ words := by
  cases row with
  | nil => exact absurd h (nil_notMem_oneOf_mul _ _)
  | cons a others => exact ⟨a, others, rfl, cons_mem_oneOf_mul.1 h⟩

/-- The kind and the literal of a token. -/
def Token.word (token : Token) : Word := (token.kind, token.literal)

theorem Piece.map_word_tokens (cursor : Cursor) (pieces : List Piece) :
    (tokens cursor pieces).map Token.word = pieces.map word := by
  induction pieces generalizing cursor with
  | nil => rfl
  | cons piece pieces ih => simp [tokens, ih, Token.word, word]

/-- Every token is that of a piece. -/
theorem Piece.exists_word_eq {cursor : Cursor} {pieces : List Piece} {token : Token}
    (htoken : token ∈ tokens cursor pieces) : ∃ piece ∈ pieces, piece.word = token.word := by
  rw [← List.mem_map, ← map_word_tokens cursor]
  exact List.mem_map_of_mem htoken

theorem Link.map_word_tokens_iff (leaf : Operator × Binary64) (part : List Token) :
    part.map Token.word ∈ Node.otherLeafRows leaf ↔
      ∃ link : Link, link.tokens = part ∧ link.Denotes leaf := by
  constructor
  · intro hpart
    obtain ⟨sign, _, rfl, hoperator, word, ⟨hnumber, hvalue⟩, hoperand⟩ :=
      exists_cons_of_map_mem hpart
    obtain ⟨operand, _, rfl, rfl, hnil⟩ := List.map_eq_cons_iff.1 hoperand
    obtain rfl := List.map_eq_nil_iff.1 hnil
    exact ⟨⟨sign, operand, leaf.1, hoperator, hnumber⟩, rfl, rfl, hvalue⟩
  · rintro ⟨link, rfl, hoperator, hvalue⟩
    refine cons_mem_oneOf_mul.2 ⟨?_, link.operand.word, ⟨link.operand_kind, hvalue⟩, rfl⟩
    rw [← hoperator]
    exact link.operator?_kind

namespace Phrase

/-- A phrase binds a name to an expression of the leaves and operators of a tree. -/
def Denotes (phrase : Phrase) : Node → Prop
  | .binding name initial _ =>
    phrase.name.literal = name ∧ phrase.first.value == initial.firstLeaf ∧
      List.Forall₂ Link.Denotes phrase.links initial.otherLeaves
  | .number _ _ | .binary _ _ _ _ => False

theorem map_word_tokens_iff (node : Node) (part : List Token) :
    part.map Token.word ∈ node.statementRows ↔
      ∃ phrase : Phrase, phrase.tokens = part ∧ phrase.Denotes node := by
  cases node with
  | binding name initial location =>
    simp only [Node.statementRows, Node.expressionRows, numberRows, mul_assoc]
    constructor
    · intro hpart
      obtain ⟨keyword, _, rfl, hkeyword, hpart⟩ := exists_cons_of_map_mem hpart
      obtain ⟨identifier, _, rfl, hidentifier, hpart⟩ := exists_cons_of_map_mem hpart
      obtain ⟨sign, _, rfl, hsign, hpart⟩ := exists_cons_of_map_mem hpart
      obtain ⟨first, _, rfl, ⟨hfirst, hvalue⟩, hpart⟩ := exists_cons_of_map_mem hpart
      obtain ⟨links, rfl, hlinks⟩ := (Words.map_mem_prod_iff Link.map_word_tokens_iff).1 hpart
      obtain ⟨hname, hliteral⟩ := Prod.mk.inj hidentifier
      exact ⟨⟨keyword, identifier, sign, first, links, hkeyword, hname, hsign, hfirst⟩, rfl,
        hliteral, hvalue, hlinks⟩
    · rintro ⟨phrase, rfl, rfl, hvalue, hlinks⟩
      simp only [tokens, List.map_cons, cons_mem_oneOf_mul]
      refine ⟨phrase.keyword_kind, ?_, phrase.sign_kind, ⟨phrase.first_kind, hvalue⟩, ?_⟩
      · rw [Token.word, phrase.name_kind]
      · exact (Words.map_mem_prod_iff Link.map_word_tokens_iff).2 ⟨phrase.links, rfl, hlinks⟩
  | number | binary =>
    refine iff_of_false (Set.notMem_empty _) ?_
    rintro ⟨_, _, hdenotes⟩
    exact hdenotes

/-- The tokens with the words of a program are those of the phrases that denote it. -/
theorem map_word_row_iff {nodes : List Node} {tokens : List Token} :
    tokens.map Token.word ∈ (nodes.map Node.statementRows).prod ↔
      ∃ phrases, row phrases = tokens ∧ List.Forall₂ Denotes phrases nodes :=
  Words.map_mem_prod_iff map_word_tokens_iff

theorem node_beq_of_denotes {phrase : Phrase} {node : Node} (hproper : node.Proper)
    (hdenotes : phrase.Denotes node) : phrase.node == node := by
  cases node with
  | binding name initial location =>
    obtain ⟨hname, hfirst, hlinks⟩ := hdenotes
    have hinitial := beq_layered hproper.2 hfirst hlinks
    change (_ && Node.beq _ _) = true
    simpa using ⟨hname, hinitial⟩
  | number | binary => cases hproper

theorem map_node_beq_of_denotes {phrases : List Phrase} {nodes : List Node}
    (hproper : ∀ node ∈ nodes, node.Proper) (hdenotes : List.Forall₂ Denotes phrases nodes) :
    phrases.map node == nodes := by
  induction hdenotes with
  | nil => rfl
  | cons hdenotes _ ih =>
    obtain ⟨hnode, hnodes⟩ := List.forall_mem_cons.1 hproper
    rw [List.map_cons, List.cons_beq_cons, node_beq_of_denotes hnode hdenotes, ih hnodes]
    rfl

end Phrase

theorem Binary64.ofRank_beq_self (negative : Bool) (rank : Nat) :
    ofRank negative rank == ofRank negative rank := by
  unfold ofRank
  split
  · change (_ && (_ || _)) = true
    simp
  · change decide _ = true
    simp

theorem Phrase.denotes_node (phrase : Phrase) : phrase.Denotes phrase.node := by
  have hself (token : Token) : token.value == token.value := Binary64.ofRank_beq_self _ _
  refine ⟨rfl, ?_, ?_⟩
  · rw [firstLeaf_layered]
    exact hself phrase.first
  · rw [otherLeaves_layered]
    change List.Forall₂ _ _ (phrase.links.map Link.leaf)
    rw [List.forall₂_map_right_iff, List.forall₂_same]
    exact fun link _ => ⟨rfl, hself link.operand⟩

theorem Phrase.admitted_row (phrases : List Phrase) :
    Grammar.Admitted none ((row phrases).map Token.kind) := by
  have hprogram := map_kind_mem_program_iff.2 ⟨phrases, rfl⟩
  exact (Grammar.append_mem_rest.1 (Grammar.mem_program_iff.1 hprogram)).1

/-- A text whose tokens are those of phrases parses to their bindings. -/
theorem parse_of_row {text : String} {phrases : List Phrase}
    (htokenize : tokenize text = .ok (Phrase.row phrases)) :
    parse text = .ok (phrases.map Phrase.node) := by
  obtain ⟨tokens, last, htokens, -, hend, hcases⟩ := parse_cases text
  obtain rfl := Except.ok.inj (htokens.symm.trans htokenize)
  rcases hcases with ⟨others, hrow, hparse⟩ |
    ⟨before, wrong, after, hsplit, -, hfollows, -⟩
  · rwa [Phrase.row_inj hrow] at hparse
  · -- No kind of token in a program is one that cannot follow.
    have hprogram := Phrase.map_kind_mem_program_iff.2 ⟨phrases, rfl⟩
    have hword := Grammar.mem_program_iff.1 hprogram
    rw [← hend, ← List.map_singleton, ← List.map_append, hsplit, List.map_append] at hword
    have hwrong := (Grammar.cons_mem_rest.1 (Grammar.append_mem_rest.1 hword).2).1
    rw [hfollows] at hwrong
    cases hwrong

theorem Piece.map_kind_tokens (cursor : Cursor) (pieces : List Piece) :
    (tokens cursor pieces).map Token.kind = pieces.map fun piece => piece.lexeme.kind := by
  have hwords := congrArg (List.map Prod.fst) (map_word_tokens cursor pieces)
  rwa [List.map_map, List.map_map] at hwords

/-- A text that lies at a cursor is made of the pieces that are read as the tokens of phrases, and of
    blanks behind them. -/
def Phrase.LaidOut (cursor : Cursor) (phrases : List Phrase) (text : List Char) : Prop :=
  ∃ (pieces : List Piece) (last : List Char), (∀ piece ∈ pieces, piece.Worded) ∧ Text.Blank last ∧
    pieces.flatMap Piece.text ++ last = text ∧ Piece.tokens cursor pieces = row phrases

/-- A text parses to the bindings of the phrases that are laid out in it. -/
theorem Phrase.LaidOut.parse {phrases : List Phrase} {text : String}
    (h : LaidOut {} phrases text.toList) : parse text = .ok (phrases.map node) := by
  obtain ⟨pieces, last, hworded, hlast, htext, htokens⟩ := h
  have hadmitted := admitted_row phrases
  rw [← htokens, Piece.map_kind_tokens] at hadmitted
  have hall := Piece.all_of_admitted hworded hadmitted hlast
  have htokenize := (tokens_eq text).1
  rw [← htext, hall, htokens] at htokenize
  exact parse_of_row htokenize

/-- Every spelling of a program parses to it. -/
theorem exists_parse_of_mem_spellings {nodes : List Node} {text : String}
    (hproper : ∀ node ∈ nodes, node.Proper) (htext : text.toList ∈ Node.spellings nodes) :
    ∃ parsed, parse text = .ok parsed ∧ parsed == nodes := by
  obtain ⟨pieces, last, hworded, hlast, hpieces, hrow⟩ := (Node.mem_spellings_iff hproper).1 htext
  rw [← Piece.map_word_tokens {}] at hrow
  obtain ⟨phrases, hphrases, hdenotes⟩ := Phrase.map_word_row_iff.1 hrow
  have hlaid : Phrase.LaidOut {} phrases text.toList :=
    ⟨pieces, last, hworded, hlast, hpieces, hphrases.symm⟩
  exact ⟨_, hlaid.parse, Phrase.map_node_beq_of_denotes hproper hdenotes⟩

theorem Grammar.eq_letKeyword_of_follows_identifier {previous : Option Kind}
    (hfollows : follows previous .identifier) : previous = some .letKeyword := by
  match previous with
  | none => cases hfollows
  | some previous => cases previous <;> first | rfl | cases hfollows

/-- The pieces of a text in the order of the grammar are worded: without blanks before a name the
    keyword before it would go on. -/
theorem Piece.worded_of_admitted {previous : Option Kind} {text : List Char}
    (hadmitted : Grammar.Admitted previous ((all text).map fun piece => piece.lexeme.kind))
    (hhead : previous = some .letKeyword → ∀ c ∈ text.head?, Text.isLetter c = false) :
    ∀ piece ∈ all text, piece.Worded := by
  induction text using Piece.induction generalizing previous with
  | blank text hblank => simp [all_of_blank hblank]
  | piece blanks lexeme rest hblanks hfirst hsolid ih =>
    rw [all_append hblanks hfirst hsolid] at hadmitted ⊢
    simp only [List.map_cons, Grammar.Admitted] at hadmitted
    obtain ⟨hfollows, hadmitted⟩ := hadmitted
    have hmem := Lexeme.text_mem_lexemes hfirst hsolid
    have hne := (Lexeme.first?_ne_nil hfirst).2
    refine List.forall_mem_cons.2 ⟨⟨hblanks, hmem, ?apart⟩, ih hadmitted ?rest⟩
    case apart =>
      rintro hidentifier rfl
      rw [hidentifier] at hmem hfollows
      have hprevious := Grammar.eq_letKeyword_of_follows_identifier hfollows
      have hletter := hmem.2.1 _ (List.head_mem hne)
      have hnone := hhead hprevious (lexeme.text.head hne)
      rw [List.nil_append, List.head?_append_of_ne_nil _ hne, List.head?_eq_some_head hne] at hnone
      rw [hnone rfl] at hletter
      cases hletter
    case rest =>
      intro hkeyword
      rw [Option.some.inj hkeyword] at hmem
      have htext : lexeme.text = "let".toList := hmem
      have hletter : 'l' ∈ lexeme.text := htext ▸ List.mem_cons_self
      exact Lexeme.isLetter_head?_eq_false hfirst hletter (by decide +kernel)

/-- In a text that parses, the phrases of its program are laid out. -/
theorem Phrase.exists_laidOut_of_parse {text : String} {nodes : List Node}
    (hparse : LetArith.parse text = .ok nodes) :
    ∃ phrases, LaidOut {} phrases text.toList ∧ phrases.map node = nodes ∧
      tokenize text = .ok (row phrases) := by
  obtain ⟨tokens, last, htokenize, -, -, ⟨phrases, rfl, haccepted⟩ | ⟨_, _, _, _, _, _, hrefused⟩⟩ :=
    parse_cases text
  swap
  · rw [hrefused] at hparse
    cases hparse
  have htokens := Except.ok.inj ((tokens_eq text).1.symm.trans htokenize)
  have hadmitted := admitted_row phrases
  rw [← htokens, Piece.map_kind_tokens] at hadmitted
  have hworded := Piece.worded_of_admitted hadmitted (by simp)
  obtain ⟨last, hlast, htext⟩ := Piece.exists_blanks text.toList
  exact ⟨phrases, ⟨_, last, hworded, hlast, htext.symm, htokens⟩,
    Except.ok.inj (haccepted.symm.trans hparse), htokenize⟩

/-- A name among the tokens of worded pieces is a row of letters other than the keyword. -/
theorem Piece.mem_lexemes_of_identifier {cursor : Cursor} {pieces : List Piece}
    (hworded : ∀ piece ∈ pieces, piece.Worded) {token : Token} (htoken : token ∈ tokens cursor pieces)
    (hkind : token.kind = .identifier) : token.literal.toList ∈ Kind.lexemes .identifier := by
  obtain ⟨piece, hpiece, heq⟩ := exists_word_eq htoken
  obtain ⟨hsame, hliteral⟩ := Prod.mk.inj heq
  have hmem := (hworded piece hpiece).mem_lexemes
  rw [hsame, hkind] at hmem
  have hnumber : piece.lexeme.kind ≠ .number := by simp [hsame, hkind]
  rwa [← hliteral, Lexeme.literal, if_neg hnumber, String.toList_ofList]

/-- A text that parses is a spelling of the program that it parses to. -/
theorem mem_spellings_of_parse {text : String} {nodes : List Node} (hparse : parse text = .ok nodes) :
    (∀ node ∈ nodes, node.Proper) ∧ text.toList ∈ Node.spellings nodes := by
  obtain ⟨phrases, ⟨pieces, last, hworded, hlast, htext, htokens⟩, rfl, -⟩ :=
    Phrase.exists_laidOut_of_parse hparse
  have hproper : ∀ node ∈ phrases.map Phrase.node, node.Proper := by
    intro node hnode
    obtain ⟨phrase, hphrase, rfl⟩ := List.mem_map.1 hnode
    have hname : phrase.name ∈ Piece.tokens {} pieces := by
      rw [htokens]
      exact List.mem_flatMap.2 ⟨phrase, hphrase, by simp [Phrase.tokens]⟩
    obtain ⟨hne, hletters, hlet⟩ := Piece.mem_lexemes_of_identifier hworded hname phrase.name_kind
    refine ⟨⟨hne, hletters, ?_⟩, normal_layered phrase.first phrase.links⟩
    exact fun heq => hlet (congrArg String.toList heq)
  refine ⟨hproper, (Node.mem_spellings_iff hproper).2 ⟨pieces, last, hworded, hlast, htext, ?_⟩⟩
  rw [← Piece.map_word_tokens {}, htokens]
  refine Phrase.map_word_row_iff.2 ⟨phrases, rfl, ?_⟩
  rw [List.forall₂_map_right_iff, List.forall₂_same]
  exact fun phrase _ => phrase.denotes_node

/-- Every spelling of a program of names and expressions in normal form parses to that program, and
    every text that parses is a spelling of the program that it parses to, whose names and
    expressions are of this form. -/
theorem parse_iff_spelling :
    (∀ (nodes : List Node) (text : String), (∀ node ∈ nodes, node.Proper) →
      text.toList ∈ Node.spellings nodes → ∃ parsed, parse text = .ok parsed ∧ parsed == nodes) ∧
    ∀ (text : String) (nodes : List Node), parse text = .ok nodes →
      (∀ node ∈ nodes, node.Proper) ∧ text.toList ∈ Node.spellings nodes := by
  refine ⟨fun nodes text => exists_parse_of_mem_spellings, fun text nodes hparse => ?_⟩
  exact mem_spellings_of_parse hparse

/-- Two bindings without a blank between them, and with numerals of more than one spelling. -/
theorem parse_iff_spelling_of_two_bindings :
    let program := [
      Node.binding "x"
        (.binary (.number (.ofNumeral false "10".toList 0) ⟨1, 7⟩) .plus
          (.binary (.number (.ofNumeral false "2".toList 0) ⟨1, 12⟩) .times
            (.number (.ofNumeral false "3".toList 0) ⟨1, 14⟩) ⟨1, 12⟩) ⟨1, 7⟩) ⟨1, 1⟩,
      .binding "y" (.number (.ofNumeral false "4".toList 0) ⟨2, 3⟩) ⟨1, 15⟩]
    (∀ node ∈ program, node.Proper) ∧
      "let x=1_0.+2*3let y\n= 4.0 ".toList ∈ Node.spellings program ∧
      ∃ parsed, parse "let x=1_0.+2*3let y\n= 4.0 " = .ok parsed ∧ parsed == program := by
  intro program
  have hparse : parse "let x=1_0.+2*3let y\n= 4.0 " = .ok program := by decide +kernel
  obtain ⟨hproper, htext⟩ := parse_iff_spelling.2 _ program hparse
  exact ⟨hproper, htext, parse_iff_spelling.1 program _ hproper htext⟩

end LetArith
