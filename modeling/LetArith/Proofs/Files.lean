import LetArith.Folder
import Mathlib.Data.List.Basic
import Mathlib.Tactic.SplitIfs

namespace LetArith.Folder

variable (d : Folder) (names : List String) (content : List UInt8)

/-- Putting a content somewhere changes nothing but the files. -/
theorem put_eq : d.put names content = { d with files := (d.put names content).files } := by
  unfold put
  split_ifs <;> rfl

/-- What writing a content to the opened file of some names makes of a file system: nothing but that
    file changes, and the content is there unless the file keeps nothing. -/
structure Filled (d d' : Folder) (names : List String) (content : List UInt8) : Prop where
  rest : d' = { d with files := d'.files }
  others : ∀ other, other ≠ names → d'.content? other = d.content? other
  kept : names ∉ d.sinks → d'.content? names = some content
  lost : names ∈ d.sinks → d'.content? names = d.content? names

variable {d names} {d' d'' : Folder} {first : List UInt8}

variable {content}

/-- Of two contents that are written to a file one after the other, the second is there. -/
theorem Filled.trans (h : d.Filled d' names first) (h' : d'.Filled d'' names content) :
    d.Filled d'' names content := by
  have hsinks : d'.sinks = d.sinks := by rw [h.rest]
  refine ⟨?_, fun other hother => (h'.others other hother).trans (h.others other hother),
    fun hsink => h'.kept (hsinks ▸ hsink),
    fun hsink => (h'.lost (hsinks ▸ hsink)).trans (h.lost hsink)⟩
  rw [h'.rest, h.rest]

end LetArith.Folder
