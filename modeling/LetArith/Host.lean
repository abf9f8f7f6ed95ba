import LetArith.Folder
import LetArith.Log

namespace LetArith

/-- How high the trees may be that a program shows before its stack is exhausted. To show a tree is a
    call within a call for every node inside of another, and these calls begin at depths that are not
    the same for a listing, a document and a log record. For all other calls there is room. -/
structure Stack where
  listing : Option Nat := none
  document : Option Nat := none
  record : Option Nat := none
  /-- The wording of the error that is raised over a text. It tells which call was one too many. -/
  wording : List Char → String := fun _ => "maximum recursion depth exceeded"

namespace Stack

variable (stack : Stack) (shown : Level)

/-- Whether a stack is exhausted by making a log record of an event. A record is only made if it is
    to be shown. -/
def exhaustedBy : Event → Bool
  | .bound name initial =>
    shown.severity ≤ (Event.bound name initial).record.level.severity &&
      !initial.fits stack.record
  | .invalid _ | .finished _ => false

/-- The log records of events that are to be shown, up to the event that exhausts the stack. -/
def records (journal : List Event) : List Record :=
  Record.atLeast shown ((journal.takeWhile (!stack.exhaustedBy shown ·)).map Event.record)

end Stack

/-- What a run takes place on, its file system left out. By default nothing about it is limited. -/
structure Host where
  stack : Stack := {}
  /-- How many characters of a text the standard output takes before it is interrupted, and by what,
      if it is. -/
  screen : String → Option (Nat × Interruption) := fun _ => none

end LetArith
