import LetArith.CommandLine.Command
import LetArith.Proofs.Atomicity
import LetArith.Proofs.Heights

namespace LetArith

namespace Failure

/-- The failures that are about a value: the name of a source file, a path, bytes, or a text that has
    no encoding. -/
def AboutValue : Failure → Prop
  | .unsupportedName | .embeddedNull | .malformed _ | .interrupted (.unencodable _) => True
  | .unreadable _ | .obstructed _ _ | .interrupted (.blocked _) | .exhausted => False

/-- The failures that the system reports. -/
def AboutSystem : Failure → Prop
  | .obstructed _ _ | .interrupted (.blocked _) => True
  | .unreadable _ | .unsupportedName | .embeddedNull | .malformed _
  | .interrupted (.unencodable _) | .exhausted => False

/-- The failures that are about the surroundings of a run, and not about its source text. -/
def External (failure : Failure) : Prop := failure.AboutValue ∨ failure.AboutSystem

theorem Syntactic.status? {failure : Failure} (h : failure.Syntactic) :
    failure.status? = some 1 := by
  obtain ⟨error, rfl⟩ := h
  rfl

theorem External.status? {failure : Failure} (h : failure.External) : failure.status? = some 2 := by
  cases failure with
  | unreadable | exhausted => rcases h with h | h <;> cases h
  | unsupportedName | embeddedNull | obstructed | malformed | interrupted => rfl

end Failure

namespace Request

variable {request : Request} {host : Host} {shown : Level} {w w' : Workspace} {failure : Failure}

end Request

namespace CommandLine

end CommandLine

end LetArith
