import LetArith.Proofs.Atomicity
import LetArith.Proofs.Conversation
import LetArith.Proofs.Matching

namespace LetArith

open Grammar

namespace Text

variable {text : List Char}

end Text

theorem Cursor.walk_of_notMem (cursor : Cursor) {text : List Char} (h : '\n' ∉ text) :
    cursor.walk text =
      ⟨cursor.position + text.length, cursor.line, cursor.column + text.length⟩ := by
  induction text generalizing cursor with
  | nil => simp
  | cons c text ih =>
    obtain ⟨hc, htext⟩ := List.ne_and_not_mem_of_not_mem_cons h
    rw [walk_cons, ih _ htext, step, if_neg hc.symm]
    simp only [List.length_cons, mk.injEq, true_and]
    omega

namespace Piece

end Piece

namespace Repl

variable {line : List Char}

end Repl

end LetArith
