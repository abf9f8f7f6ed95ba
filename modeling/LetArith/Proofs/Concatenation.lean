import LetArith.Proofs.Boundary
import LetArith.Proofs.Relocation
import LetArith.Proofs.RoundTrip

namespace LetArith

theorem Piece.exists_append_of_tokens_eq_append {cursor : Cursor} {pieces : List Piece}
    {before behind : List Token} (h : tokens cursor pieces = before ++ behind) :
    ∃ front back, pieces = front ++ back ∧ tokens cursor front = before ∧
      tokens (cursor.walk (front.flatMap text)) back = behind := by
  have hlength : before.length ≤ pieces.length := by
    rw [← length_tokens cursor pieces, h, List.length_append]
    omega
  have happend := tokens_append cursor (pieces.take before.length) (pieces.drop before.length)
  rw [List.take_append_drop, h] at happend
  have hsame := List.append_inj happend.symm (by simpa using hlength)
  exact ⟨_, _, (List.take_append_drop before.length pieces).symm, hsame⟩

namespace Phrase

/-- A text in which phrases are laid out, and right behind it one in which others are. -/
theorem LaidOut.append {cursor : Cursor} {phrases others : List Phrase} {text more : List Char}
    (h : LaidOut cursor phrases text) (h' : LaidOut (cursor.walk text) others more) :
    LaidOut cursor (phrases ++ others) (text ++ more) := by
  obtain ⟨pieces, last, hworded, hlast, rfl, htokens⟩ := h
  obtain ⟨pieces', last', hworded', hlast', rfl, htokens'⟩ := h'
  have hrow : row (phrases ++ others) = row phrases ++ row others := List.flatMap_append
  rw [LaidOut, hrow, ← htokens, ← htokens', Cursor.walk_append]
  cases pieces' with
  | nil =>
    refine ⟨pieces, last ++ last', hworded, List.forall_mem_append.2 ⟨hlast, hlast'⟩, ?_, ?_⟩
    · simp
    · simp [Piece.tokens]
  | cons piece pieces' =>
    -- The blanks behind the first text come before the first piece of the other one.
    obtain ⟨hpiece, hothers⟩ := List.forall_mem_cons.1 hworded'
    have hjoined : Piece.Worded ⟨last ++ piece.blanks, piece.lexeme⟩ := by
      refine ⟨List.forall_mem_append.2 ⟨hlast, hpiece.blank⟩, hpiece.mem_lexemes, ?_⟩
      intro hkind hnil
      exact hpiece.apart hkind (List.append_eq_nil_iff.1 hnil).2
    refine ⟨pieces ++ ⟨last ++ piece.blanks, piece.lexeme⟩ :: pieces', last', ?_, hlast', ?_, ?_⟩
    · exact List.forall_mem_append.2 ⟨hworded, List.forall_mem_cons.2 ⟨hjoined, hothers⟩⟩
    · simp [Piece.text]
    · simp [Piece.tokens_append, Piece.tokens, Piece.text, Cursor.walk_append]

/-- Phrases are laid out in a text wherever the text lies. -/
theorem LaidOut.relocate {phrases : List Phrase} {text : List Char} (h : LaidOut {} phrases text)
    (base : Cursor) : LaidOut base (phrases.map (Phrase.relocate base)) text := by
  obtain ⟨pieces, last, hworded, hlast, htext, htokens⟩ := h
  refine ⟨pieces, last, hworded, hlast, htext, ?_⟩
  rw [Piece.tokens_eq_map_relocate, htokens, row_relocate]

/-- Phrases that are laid out in a text anywhere come from the ones that are laid out in it when it
    lies at the beginning. -/
theorem LaidOut.exists_beginning {base : Cursor} {phrases : List Phrase} {text : List Char}
    (h : LaidOut base phrases text) :
    ∃ originals, LaidOut {} originals text ∧ originals.map (Phrase.relocate base) = phrases := by
  obtain ⟨pieces, last, hworded, hlast, htext, htokens⟩ := h
  have hprogram : (Piece.tokens {} pieces).map Token.kind ∈ Grammar.program := by
    rw [Piece.map_kind_tokens, ← Piece.map_kind_tokens base, htokens]
    exact map_kind_mem_program_iff.2 ⟨phrases, rfl⟩
  obtain ⟨originals, horiginals⟩ := map_kind_mem_program_iff.1 hprogram
  refine ⟨originals, ⟨pieces, last, hworded, hlast, htext, horiginals.symm⟩, row_inj ?_⟩
  rw [row_relocate, horiginals, ← Piece.tokens_eq_map_relocate, htokens]

/-- A text of several phrases is cut right before the keyword of the second one. -/
theorem LaidOut.exists_cut {cursor : Cursor} {phrase next : Phrase} {others : List Phrase}
    {text : List Char} (h : LaidOut cursor (phrase :: next :: others) text) :
    ∃ front behind, text = front ++ behind ∧ LaidOut cursor [phrase] front ∧
      next.keyword.start = cursor.walk front ∧
      LaidOut (cursor.walk front) (next :: others) behind := by
  obtain ⟨pieces, last, hworded, hlast, rfl, htokens⟩ := h
  have hrow : row (phrase :: next :: others) = phrase.tokens ++ row (next :: others) := rfl
  rw [hrow] at htokens
  obtain ⟨first, rest, rfl, hfirst, hrest⟩ := Piece.exists_append_of_tokens_eq_append htokens
  cases rest with
  | nil => cases hrest
  | cons piece rest =>
    obtain ⟨hkeyword, hbehind⟩ := List.cons.inj hrest
    rw [List.forall_mem_append, List.forall_mem_cons] at hworded
    obtain ⟨hfirstWorded, hpiece, hrestWorded⟩ := hworded
    have hstart : next.keyword.start = cursor.walk (first.flatMap Piece.text ++ piece.blanks) := by
      rw [← hkeyword, Cursor.walk_append]
    refine ⟨first.flatMap Piece.text ++ piece.blanks,
      piece.lexeme.text ++ rest.flatMap Piece.text ++ last, by simp [Piece.text],
      ⟨first, piece.blanks, hfirstWorded, hpiece.blank, rfl, by simpa [row] using hfirst⟩, hstart,
      ⟨⟨[], piece.lexeme⟩ :: rest, last, ?_, hlast, by simp [Piece.text], ?_⟩⟩
    · refine List.forall_mem_cons.2 ⟨⟨by simp [Text.Blank], hpiece.mem_lexemes, ?_⟩, hrestWorded⟩
      intro hkind
      have hlet : piece.lexeme.kind = .letKeyword := by
        rw [← next.keyword_kind, ← hkeyword]
      rw [hlet] at hkind
      cases hkind
    · rw [← hrest]
      simp [Piece.tokens, Piece.text, Cursor.walk_append]

private theorem denotes_mapLocation_iff (f : Location → Location) (phrase : Phrase) (node : Node) :
    phrase.Denotes (node.mapLocation f) ↔ phrase.Denotes node := by
  cases node with
  | binding name initial location =>
    simp only [Node.mapLocation, Denotes, Node.firstLeaf_mapLocation, Node.otherLeaves_mapLocation]
  | number | binary => rfl

end Phrase

/-- The parts of a text that begin at given offsets, where the text itself begins at an offset. What
    comes before the first part is left with it. -/
def Text.parts (offset : Int) : List Int → List Char → List (List Char)
  | [], _ => []
  | [_], text => [text]
  | _ :: next :: others, text =>
    text.take (next - offset).toNat :: parts next (next :: others) (text.drop (next - offset).toNat)

namespace Phrase

/-- The parts of a text that begin at the keywords of its phrases hold one phrase each. -/
theorem LaidOut.parts {cursor : Cursor} {phrases : List Phrase} {text : List Char}
    (h : LaidOut cursor phrases text) :
    List.Forall₂ (fun phrase part => ∃ base, LaidOut base [phrase] part) phrases
      (Text.parts cursor.position (phrases.map fun phrase => phrase.keyword.start.position)
        text) := by
  induction phrases generalizing cursor text with
  | nil => exact .nil
  | cons phrase others ih =>
    cases others with
    | nil => exact .cons ⟨cursor, h⟩ .nil
    | cons next others =>
      obtain ⟨front, behind, rfl, hfront, hstart, hbehind⟩ := h.exists_cut
      have hoffset : (next.keyword.start.position - cursor.position).toNat = front.length := by
        rw [hstart, Cursor.position_walk]
        omega
      have hparts := ih hbehind
      rw [← hstart] at hparts
      simp only [List.map_cons, Text.parts, hoffset, List.take_left, List.drop_left] at hparts ⊢
      exact .cons ⟨cursor, hfront⟩ hparts

theorem LaidOut.exists_parse_single {base : Cursor} {phrase : Phrase} {part : List Char}
    (h : LaidOut base [phrase] part) (hproper : phrase.node.Proper) :
    ∃ single, LetArith.parse (String.ofList part) = .ok [single] ∧ single == phrase.node := by
  obtain ⟨originals, horiginals, hmoved⟩ := h.exists_beginning
  obtain ⟨original, _, rfl, rfl, hnil⟩ := List.map_eq_cons_iff.1 hmoved
  obtain rfl := List.map_eq_nil_iff.1 hnil
  have hparse : LetArith.parse (String.ofList part) = .ok ([original].map node) := by
    apply LaidOut.parse
    rwa [String.toList_ofList]
  refine ⟨original.node, hparse, node_beq_of_denotes hproper ?_⟩
  rw [node_relocate, denotes_mapLocation_iff]
  exact original.denotes_node

private theorem denotes_node_of_relocate (base : Cursor) (phrase : Phrase) :
    (phrase.relocate base).Denotes phrase.node := by
  rw [← denotes_mapLocation_iff base.location.relocate, ← node_relocate]
  exact denotes_node _

end Phrase

private theorem map_node_relocate (before : List Char) (phrases : List Phrase) :
    (phrases.map (Phrase.relocate (Cursor.walk {} before))).map Phrase.node =
      (phrases.map Phrase.node).map (Node.mapLocation (Location.behind before)) := by
  rw [List.map_map, List.map_map]
  apply List.map_congr_left
  intro phrase _
  rw [Function.comp_apply, Phrase.node_relocate]
  congr 1
  exact funext (Cursor.relocate_location_walk before)

/-- Two texts that parse make one text that parses: to the bindings of the first one, and behind them
    those of the second one with their places behind the first text. And when a text that parses is
    cut into parts that begin at its keywords, each part parses to one of its bindings alone. -/
theorem parse_append :
    (∀ (text more : String) (nodes others : List Node), parse text = .ok nodes →
      parse more = .ok others →
      ∃ both, parse (text ++ more) = .ok both ∧ both == nodes ++ others ∧
        both = nodes ++ others.map (Node.mapLocation (Location.behind text.toList))) ∧
    ∀ (text : String) (nodes : List Node), parse text = .ok nodes →
      ∃ tokens, tokenize text = .ok tokens ∧
        List.Forall₂
          (fun part node => ∃ single, parse (String.ofList part) = .ok [single] ∧ single == node)
          (Text.parts 0
            ((tokens.filter fun token => token.kind = .letKeyword).map (·.start.position))
            text.toList)
          nodes := by
  constructor
  · intro text more nodes others hparse hparse'
    obtain ⟨phrases, hphrases, rfl, -⟩ := Phrase.exists_laidOut_of_parse hparse
    obtain ⟨phrases', hphrases', rfl, -⟩ := Phrase.exists_laidOut_of_parse hparse'
    have hboth := hphrases.append (hphrases'.relocate (Cursor.walk {} text.toList))
    rw [← String.toList_append] at hboth
    refine ⟨_, hboth.parse, ?_, ?_⟩
    · rw [← List.map_append]
      apply Phrase.map_node_beq_of_denotes
      · rw [List.map_append]
        exact List.forall_mem_append.2
          ⟨(mem_spellings_of_parse hparse).1, (mem_spellings_of_parse hparse').1⟩
      · rw [List.map_append]
        apply List.rel_append
        · rw [List.forall₂_map_right_iff, List.forall₂_same]
          exact fun phrase _ => phrase.denotes_node
        · rw [List.forall₂_map_left_iff, List.forall₂_map_right_iff, List.forall₂_same]
          exact fun phrase _ => phrase.denotes_node_of_relocate _
    · rw [List.map_append, map_node_relocate]
  · intro text nodes hparse
    obtain ⟨phrases, hphrases, rfl, htokenize⟩ := Phrase.exists_laidOut_of_parse hparse
    have hproper := (mem_spellings_of_parse hparse).1
    refine ⟨_, htokenize, ?_⟩
    rw [Phrase.filter_row, List.map_map, List.forall₂_map_right_iff]
    have hparts := (List.forall₂_and_left _ _).2 ⟨List.forall_mem_map.1 hproper, hphrases.parts⟩
    refine (hparts.imp ?_).flip
    rintro phrase part ⟨hnode, base, hlaid⟩
    exact hlaid.exists_parse_single hnode

/-- A keyword right behind a numeral, and a binding that goes on in the next line. -/
theorem parse_append_of_adjacent_bindings :
    let x := Node.binding "x" (.number (.ofNumeral false "1".toList 0) ⟨1, 7⟩) ⟨1, 1⟩
    let y := Node.binding "y" (.number (.ofNumeral false "2".toList 0) ⟨2, 3⟩) ⟨1, 1⟩
    (∃ both, parse ("let x=1" ++ "let y\n= 2 ") = .ok both ∧ both == [x] ++ [y] ∧
      both = [x] ++ [y].map (Node.mapLocation (Location.behind "let x=1".toList))) ∧
    ∃ tokens, tokenize "let x=1let y\n= 2 " = .ok tokens ∧
      List.Forall₂
        (fun part node => ∃ single, parse (String.ofList part) = .ok [single] ∧ single == node)
        (Text.parts 0
          ((tokens.filter fun token => token.kind = .letKeyword).map (·.start.position))
          "let x=1let y\n= 2 ".toList)
        [x, y.mapLocation (Location.behind "let x=1".toList)] := by
  intro x y
  have hx : parse "let x=1" = .ok [x] := by decide +kernel
  have hy : parse "let y\n= 2 " = .ok [y] := by decide +kernel
  obtain ⟨both, hboth, hsame, hplaces⟩ := parse_append.1 _ _ _ _ hx hy
  refine ⟨⟨both, hboth, hsame, hplaces⟩, ?_⟩
  rw [hplaces] at hboth
  exact parse_append.2 _ _ hboth

end LetArith
