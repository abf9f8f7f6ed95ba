import LetArith.Node.Document
import LetArith.Proofs.Json.Escapes
import LetArith.Proofs.Json.Numerals
import LetArith.Proofs.Json.Unquoted
import LetArith.Proofs.Overflow
import LetArith.Proofs.RoundTrip

namespace LetArith

open scoped Computability
open Words

namespace Json

/-- Integers and reals as they are rendered. -/
inductive NumberText : List Char → Json → Prop
  | integer (value : Int) : NumberText (toString value).toList (.integer value)
  | real (value : Binary64) :
    NumberText (value.text Binary64.documentFormat).toList (.real value)

theorem NumberText.ne_quote {text : List Char} {document : Json} (htext : NumberText text document) :
    ∀ c ∈ text, c ≠ '"' := by
  have hbare : ∀ c ∈ text, isBare c := by
    cases htext with
    | integer value => exact (wordDenotes_toString value).2.1
    | real value => exact (wordDenotes_text value).2.1
  rintro c hc rfl
  cases hbare _ hc

theorem NumberText.eq_real {text : List Char} {document : Json} (htext : NumberText text document) :
    ∀ x ∈ document.reals, document = .real x := by
  intro x hx
  cases htext with
  | integer value => cases hx
  | real value => rw [List.mem_singleton.1 hx]

/-- The words of the grammar have neither quotation marks nor the capital letters of the words for
    what is not finite. -/
theorem Grammar.within_word : Within (fun c => c ≠ '"' ∧ c ≠ 'I' ∧ c ≠ 'N') word := by
  have hnumeric {c : Char} (hc : Numeric c) : c ≠ '"' ∧ c ≠ 'I' ∧ c ≠ 'N' := by
    rcases hc with hc | hc
    · exact ⟨ne_of_isDigit hc rfl, ne_of_isDigit hc rfl, ne_of_isDigit hc rfl⟩
    · have hmarks : ∀ c ∈ ['-', '+', '.', 'e', 'E'], c ≠ '"' ∧ c ≠ 'I' ∧ c ≠ 'N' := by
        simp
      exact hmarks c hc
  have hnumber : Within (fun c => c ≠ '"' ∧ c ≠ 'I' ∧ c ≠ 'N') number :=
    fun text htext c hc => hnumeric (within_number text htext c hc)
  refine .add (.add (.add hnumber ?_) ?_) ?_
  all_goals
    rintro _ rfl
    simp

/-- The words for what is not finite have one of two capital letters. -/
theorem NumberText.isFinite {text : List Char} {x : Binary64} (htext : NumberText text (.real x))
    (hcapital : ∀ c ∈ text, c ≠ 'I' ∧ c ≠ 'N') : x.isFinite := by
  cases htext with
  | real value =>
    cases x with
    | finite negative rank => rfl
    | infinite negative =>
      have hletter : 'I' ∈ ((Binary64.infinite negative).text Binary64.documentFormat).toList := by
        cases negative <;> decide
      exact absurd rfl (hcapital 'I' hletter).1
    | nan =>
      have hletter : 'N' ∈ (Binary64.nan.text Binary64.documentFormat).toList := by decide
      exact absurd rfl (hcapital 'N' hletter).2

/-- Outside quotation marks a text of the grammar has none of the two capital letters. -/
theorem Grammar.forall_mem_unquoted {text : List Char} (htext : text ∈ grammar) :
    ∀ c ∈ unquoted text, c ≠ 'I' ∧ c ≠ 'N' := by
  obtain ⟨denoted, hcomposed⟩ := htext
  refine hcomposed.forall_mem_unquoted ?_ (fun _ _ h => h) ?_ ?_ ?_
  · exact fun part _ hpart c hc => (within_word part hpart c hc).1
  · intro c hc
    constructor <;> rintro rfl <;> cases hc
  · intro c hc
    constructor <;> rintro rfl <;> cases hc
  · exact fun part _ hpart c hc => (within_word part hpart c hc).2

private theorem isFinite_of_render_mem_grammar {document : Json}
    (hgrammar : document.render.toList ∈ grammar) : ∀ x ∈ document.reals, x.isFinite := by
  intro x hx
  have hrendered : Composed NumberText (fun text _ => text ∈ Grammar.quote)
      document.render.toList document :=
    composed_renderAt NumberText (fun text _ => text ∈ Grammar.quote) .integer quoted_mem_quote
      document (fun x _ => .real x) 0
  obtain ⟨part, hpart, hmem⟩ := hrendered.exists_word_of_mem_reals
    (fun _ _ => NumberText.ne_quote) (fun _ _ h => h) (fun _ _ => NumberText.eq_real) x hx
  exact hpart.isFinite fun c hc => Grammar.forall_mem_unquoted hgrammar c (hmem c hc)

private theorem render_mem_grammar {document : Json} (hfinite : ∀ x ∈ document.reals, x.isFinite) :
    document.render.toList ∈ grammar := by
  have hinteger (n : Int) : (toString n).toList ∈ Grammar.word :=
    .inl (.inl (.inl (toString_mem_number n)))
  have hreal : ∀ x ∈ document.reals, (x.text Binary64.documentFormat).toList ∈ Grammar.word := by
    intro x hx
    have hx := hfinite x hx
    cases x with
    | finite negative rank => exact .inl (.inl (.inl (text_mem_number _ negative rank)))
    | infinite negative => cases hx
    | nan => cases hx
  exact ⟨document, composed_renderAt (fun text _ => text ∈ Grammar.word)
    (fun text _ => text ∈ Grammar.quote) hinteger quoted_mem_quote document hreal 0⟩

/-- A document is rendered as a text of the grammar exactly if all of its reals are finite. -/
theorem render_mem_grammar_iff (document : Json) :
    document.render.toList ∈ grammar ↔ ∀ x ∈ document.reals, x.isFinite :=
  ⟨isFinite_of_render_mem_grammar, render_mem_grammar⟩

end Json

/-- The reals of the document of a tree are the values of its leaves. -/
theorem Node.reals_document (node : Node) :
    node.document.reals = node.firstLeaf :: node.otherLeaves.map Prod.snd := by
  induction node with
  | number value location => rfl
  | binary left operator right location ihleft ihright =>
    simp [document, Json.reals, locationFields, ihleft, ihright, firstLeaf, otherLeaves]
  | binding name initial location ih =>
    simp [document, Json.reals, locationFields, ih, firstLeaf, otherLeaves]

namespace Phrase

/-- The values in the tree of a phrase are those of its numbers. -/
theorem reals_document_node (phrase : Phrase) :
    phrase.node.document.reals =
      phrase.first.value :: phrase.links.map fun link => link.operand.value := by
  rw [Node.reals_document, node, Node.firstLeaf, Node.otherLeaves, firstLeaf_layered,
    otherLeaves_layered]
  simp [Token.leaf, Node.firstLeaf, Node.otherLeaves, Link.leaf, Token.value]

/-- The number tokens of a phrase are its first operand and those of its links. -/
theorem forall_number_iff (phrase : Phrase) (p : Token → Prop) :
    (∀ token ∈ phrase.tokens, token.kind = .number → p token) ↔
      p phrase.first ∧ ∀ link ∈ phrase.links, p link.operand := by
  constructor
  · intro h
    refine ⟨h phrase.first (by simp [tokens]) phrase.first_kind, fun link hlink => ?_⟩
    have hchain : link.operand ∈ Link.chain phrase.links :=
      List.mem_flatMap.2 ⟨link, hlink, by simp [Link.tokens]⟩
    exact h link.operand (by simp [tokens, hchain]) link.operand_kind
  · rintro ⟨hfirst, hlinks⟩ token htoken hkind
    simp only [tokens, List.mem_cons] at htoken
    rcases htoken with rfl | rfl | rfl | rfl | hchain
    · exact absurd (phrase.keyword_kind.symm.trans hkind) (by decide)
    · exact absurd (phrase.name_kind.symm.trans hkind) (by decide)
    · exact absurd (phrase.sign_kind.symm.trans hkind) (by decide)
    · exact hfirst
    · obtain ⟨link, hlink, hmem⟩ := List.mem_flatMap.1 hchain
      simp only [Link.tokens, List.mem_cons, List.not_mem_nil, or_false] at hmem
      rcases hmem with rfl | rfl
      · have hoperator := link.operator?_kind
        rw [hkind] at hoperator
        cases hoperator
      · exact hlinks link hlink

end Phrase

/-- The text of a program is one of the JSON grammar exactly if all of its numerals denote less than
    what is rounded to infinity. -/
theorem documentText_mem_grammar_iff {text : String} {nodes : List Node}
    (hparse : parse text = .ok nodes) :
    ∃ tokens, tokenize text = .ok tokens ∧
      ((Node.documentText nodes).toList ∈ Json.grammar ↔
        ∀ token ∈ tokens, token.kind = .number →
          Text.numeralValue token.literal.toList < 2 ^ 1024 - 2 ^ 970) := by
  obtain ⟨phrases, -, rfl, htokenize⟩ := Phrase.exists_laidOut_of_parse hparse
  refine ⟨_, htokenize, ?_⟩
  rw [Node.documentText, Json.render_mem_grammar_iff]
  simp only [Json.reals, Json.realsOfItems_eq, List.forall_mem_flatMap, List.forall_mem_map,
    Phrase.reals_document_node, Phrase.row, Phrase.forall_number_iff, List.forall_mem_cons,
    Token.value, Binary64.isFinite_ofNumeral_iff]

/-- The text of a program of one small number. -/
theorem documentText_mem_grammar_of_half :
    let nodes := [Node.binding "x" (.number (.ofNumeral false "0.5".toList 0) ⟨1, 9⟩) ⟨1, 1⟩]
    parse "let x = 0.5" = .ok nodes ∧ (Node.documentText nodes).toList ∈ Json.grammar := by
  intro nodes
  have hparse : parse "let x = 0.5" = .ok nodes := by decide +kernel
  obtain ⟨tokens, htokenize, hgrammar⟩ := documentText_mem_grammar_iff hparse
  have htokens : tokenize "let x = 0.5" = .ok [⟨.letKeyword, "let", ⟨0, 1, 1⟩⟩,
      ⟨.identifier, "x", ⟨4, 1, 5⟩⟩, ⟨.assign, "=", ⟨6, 1, 7⟩⟩, ⟨.number, "0.5", ⟨8, 1, 9⟩⟩] := by
    decide +kernel
  obtain rfl := Except.ok.inj (htokenize.symm.trans htokens)
  exact ⟨hparse, hgrammar.2 (by decide +kernel)⟩

/-- A binding of one numeral parses to the number that the numeral denotes. -/
theorem parse_of_numeral {word : List Char} (hword : word ∈ Numeral.numeral) :
    parse ("let x = " ++ String.ofList word) =
      .ok [.binding "x"
        (.number (.ofNumeral false (Lexeme.withoutSeparators word) 0) ⟨1, 9⟩) ⟨1, 1⟩] := by
  let pieces : List Piece := [⟨[], .letKeyword, ['l', 'e', 't']⟩, ⟨[' '], .identifier, ['x']⟩,
    ⟨[' '], .assign, ['=']⟩, ⟨[' '], .number, word⟩]
  let phrase : Phrase :=
    ⟨⟨.letKeyword, "let", ⟨0, 1, 1⟩⟩, ⟨.identifier, "x", ⟨4, 1, 5⟩⟩, ⟨.assign, "=", ⟨6, 1, 7⟩⟩,
      ⟨.number, String.ofList (Lexeme.withoutSeparators word), ⟨8, 1, 9⟩⟩, [], rfl, rfl, rfl, rfl⟩
  have hspace : Text.Blank [' '] := Text.blank_space
  have hname : ['x'] ∈ Kind.identifier.lexemes :=
    ⟨List.cons_ne_nil _ _, List.forall_mem_singleton.2 (by decide +kernel), by decide⟩
  have hworded : ∀ piece ∈ pieces, piece.Worded := by
    simp only [pieces, List.forall_mem_cons]
    refine ⟨⟨List.forall_mem_nil _, rfl, nofun⟩, ⟨hspace, hname, fun _ => List.cons_ne_nil _ _⟩,
      ⟨hspace, singleton_mem_single '=', nofun⟩, ⟨hspace, hword, nofun⟩, List.forall_mem_nil _⟩
  have hlaid : Phrase.LaidOut {} [phrase] ("let x = " ++ String.ofList word).toList := by
    refine ⟨pieces, [], hworded, List.forall_mem_nil _, ?_, rfl⟩
    simp [pieces, Piece.text]
  have hnode : phrase.node = .binding "x"
      (.number (.ofNumeral false (Lexeme.withoutSeparators word) 0) ⟨1, 9⟩) ⟨1, 1⟩ := by
    have hleaf : phrase.first.leaf =
        .number (.ofNumeral false (Lexeme.withoutSeparators word) 0) ⟨1, 9⟩ := by
      rw [Token.leaf, String.toList_ofList]
      rfl
    rw [Phrase.node, hleaf]
    rfl
  rw [hlaid.parse, List.map_singleton, hnode]

/-- A number of 310 digits is infinite, and the text of its program is not one of the grammar. -/
theorem documentText_not_mem_grammar_of_many_digits :
    ∃ nodes, parse ("let x = " ++ String.ofList ('1' :: List.replicate 309 '0')) = .ok nodes ∧
      (Node.documentText nodes).toList ∉ Json.grammar := by
  have hascii : ∀ c ∈ '1' :: List.replicate 309 '0', c.isDigit :=
    List.forall_mem_cons.2 ⟨rfl, Text.isDigit_zeros 309⟩
  have hdigits : '1' :: List.replicate 309 '0' ∈ Numeral.numeral :=
    Numeral.mem_of_isDigit (List.cons_ne_nil _ _) (fun c hc => Text.isDigit_of_ascii (hascii c hc))
  have hvalue : Binary64.ofNumeral false
      (Lexeme.withoutSeparators ('1' :: List.replicate 309 '0')) 0 = .infinite false := by
    decide +kernel
  refine ⟨_, parse_of_numeral hdigits, fun hgrammar => ?_⟩
  rw [hvalue, Node.documentText, Json.render_mem_grammar_iff] at hgrammar
  have hfinite := hgrammar (.infinite false) (List.mem_singleton_self _)
  cases hfinite

end LetArith
