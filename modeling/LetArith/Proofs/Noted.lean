import LetArith.Host
import LetArith.Proofs.Contract
import LetArith.Proofs.Reading

namespace LetArith

/-- The tree that the record of an event shows, if it shows one. -/
def Event.tree? : Event → Option Node
  | .bound _ initial => some initial
  | .invalid _ | .finished _ => none

namespace Lexer

/-- The trees that were noted, in order. -/
def trees (l : Lexer) : List Node := l.journal.filterMap Event.tree?

private theorem trees_next {l : Lexer} {trees : List Node} (h : l.trees = trees) :
    l.next.Satisfies (fun _ => True) (fun _ => True) (·.trees = trees) := by
  rw [next_eq]
  cases tokenAt? l.source l.cursor with
  | none => exact ⟨trivial, h⟩
  | some found =>
    have hcomplaints : (complaints found.1).filterMap Event.tree? = [] := by
      unfold complaints
      split <;> rfl
    refine ⟨trivial, ?_⟩
    simp only [Lexer.trees, List.filterMap_append, hcomplaints, List.append_nil]
    exact h

/-- The contract of the lexers of which the same trees were noted. Reading tokens keeps it, and only
    to note a binding breaks it. -/
def treesContract (trees : List Node) : Parser.Contract where
  lexer l := l.trees = trees
  token _ := True
  fault _ := True
  next _ hlexer := trees_next hlexer
  unexpected _ _ _ := trivial
  unsupported _ _ := trivial

end Lexer

namespace Parser

variable {l l' : Lexer} {node : Node} {nodes : List Node} {fault : Fault}

end Parser

/-- The trees that are noted while a text is parsed: the expressions of its bindings, up to the place
    where the text is refused. -/
def noted (text : String) : List Node := (Step.lexer (Parser.program (.ofString text))).trees

/-- No tree is noted when a text is only split into its tokens. -/
theorem trees_drain (text : String) : (Step.lexer (Lexer.ofString text).drain).trees = [] := by
  have hkept : (Lexer.treesContract []).Kept _ Lexer.drain := Parser.Contract.Kept.drain
  have hdrain := hkept (.ofString text) rfl
  cases hrun : (Lexer.ofString text).drain with
  | ok tokens l =>
    rw [hrun] at hdrain
    exact hdrain.2
  | error fault l =>
    rw [hrun] at hdrain
    exact hdrain.2

namespace Stack

variable {stack : Stack} {shown : Level}

/-- A stack is exhausted by the records of a journal if the whole log is shown and a tree that was
    noted is too high. -/
theorem any_exhaustedBy_iff {l : Lexer} :
    l.journal.any (stack.exhaustedBy shown) ↔
      shown = .debug ∧ ∃ tree ∈ l.trees, tree.fits stack.record = false := by
  have hlevel : shown.severity ≤ Level.debug.severity ↔ shown = .debug := by
    cases shown <;> decide
  have hevent (event : Event) : stack.exhaustedBy shown event ↔
      shown = .debug ∧ ∃ tree, event.tree? = some tree ∧ tree.fits stack.record = false := by
    cases event <;> simp [exhaustedBy, Event.tree?, Event.record, hlevel]
  simp only [List.any_eq_true, hevent, Lexer.trees, List.mem_filterMap]
  grind

end Stack

end LetArith
