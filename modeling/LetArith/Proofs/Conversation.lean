import LetArith.Proofs.Heights
import LetArith.Proofs.Utf8
import LetArith.Repl
import Mathlib.Data.Nat.Bits

namespace LetArith

namespace Text

end Text

namespace Repl

/-- Whether a line ends a conversation. -/
def Leaves (line : List Char) : Prop := String.ofList (Text.trim line) ∈ endingWords

/-- Whether a line asks for nothing. -/
def Idle (line : List Char) : Prop := Text.trim line = [] ∨ (Text.trim line).head? = some '#'

/-- Whether a line turns the showing of tokens on or off. -/
def Toggles (line : List Char) : Prop :=
  (Text.trim line).map Char.toLower = modeWord.toList

instance : DecidablePred Leaves := fun _ => inferInstanceAs (Decidable (_ ∈ _))

instance : DecidablePred Idle := fun _ => inferInstanceAs (Decidable (_ ∨ _))

instance : DecidablePred Toggles := fun _ => inferInstanceAs (Decidable (_ = _))

variable {line : List Char}

/-- Whether a line is a source text, or asks for the tokens of one. -/
def Reads (line : List Char) : Prop := ¬ Leaves line ∧ ¬ Idle line ∧ ¬ Toggles line

section Reply

variable {stack : Stack} {shown : Level} {text : List Char} {tokens : List Token}

end Reply

section Exchanges

variable (stack : Stack) (shown : Level)

end Exchanges

section Kept

/-- The marked ones of several things. -/
def kept {α : Type} (marked : List (α × Bool)) : List α := (marked.filter Prod.snd).map Prod.fst

variable {stack : Stack} {shown : Level} {marked : List (List Char × Bool)}

end Kept

end Repl

end LetArith
