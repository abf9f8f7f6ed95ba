import LetArith.Proofs.Files
import LetArith.Proofs.Rendering

namespace LetArith

namespace Folder

variable {d : Folder} {path : String} {failure : Failure}

/-- To open a file empties it where its path leads, or fails at the path. -/
theorem openFile_cases (d : Folder) (path : String) :
    (∃ names, d.target path = .ok names ∧ d.openFile path = .ok (names, d.put names [])) ∨
    ∃ failure, d.openFile path = .error failure ∧ failure.AtFile := by
  simp only [openFile, bind, Except.bind]
  rcases checkedPath_cases path with hpath | hpath
  · rw [hpath]
    cases htarget : d.target path with
    | error obstacle =>
      refine .inr ⟨.obstructed obstacle path, ?_, trivial⟩
      simp only [htarget]
      rfl
    | ok names =>
      refine .inl ⟨names, rfl, ?_⟩
      simp only [htarget]
      rfl
  · exact .inr ⟨.embeddedNull, by rw [hpath], trivial⟩

private theorem cuts_put (names : List String) (content : List UInt8) :
    (d.put names content).cuts = d.cuts := by
  rw [put_eq]

end Folder

namespace Request

section Delivering

variable (request : Request) (host : Host) (shown : Level)

/-- The bytes of a rendering, with a line end behind it. -/
def encoded (rendering : String) : List UInt8 := Text.Utf8.encode (rendering ++ "\n").toList

/-- What comes of delivering a rendering, what becomes of the file system, and what has been printed
    then. -/
inductive Delivers (d : Folder) (printed rendering : String) :
    Except Failure Unit → Folder → String → Prop
  /-- The file to write to cannot be opened. -/
  | unopened {path : String} {failure : Failure} (houtput : request.outputPath? = some path)
      (hopen : d.openFile path = .error failure) :
      Delivers d printed rendering (.error failure) d printed
  /-- The file is opened, and then does not take the whole rendering. -/
  | cut {path : String} {names : List String} {taken : Nat} {interruption : Interruption}
      (houtput : request.outputPath? = some path) (htarget : d.target path = .ok names)
      (hcut : d.cuts names (encoded rendering) = some (taken, interruption)) :
      Delivers d printed rendering (.error (.interrupted interruption))
        ((d.put names []).put names ((encoded rendering).take taken)) printed
  | written {path : String} {names : List String} (houtput : request.outputPath? = some path)
      (htarget : d.target path = .ok names) (hwhole : d.cuts names (encoded rendering) = none) :
      Delivers d printed rendering (.ok ()) ((d.put names []).put names (encoded rendering)) printed
  /-- The standard output does not take the whole rendering. -/
  | stopped {taken : Nat} {interruption : Interruption} (houtput : request.outputPath? = none)
      (hstopped : host.screen (rendering ++ "\n") = some (taken, interruption)) :
      Delivers d printed rendering (.error (.interrupted interruption)) d
        (printed ++ String.ofList ((rendering ++ "\n").toList.take taken))
  | printed (houtput : request.outputPath? = none)
      (hwhole : host.screen (rendering ++ "\n") = none) :
      Delivers d printed rendering (.ok ()) d (printed ++ (rendering ++ "\n"))

/-- The end of a run. -/
def ended (outcome : Except Failure Unit) (w : Workspace) : EStateM.Result Failure Workspace Unit :=
  match outcome with
  | .ok () => .ok () w
  | .error failure => .error failure w

end Delivering

variable {request : Request} {host : Host} {stack : Stack} {shown : Level}

theorem deliver_of_output {path : String} (houtput : request.outputPath? = some path)
    (rendering : String) (w : Workspace) :
    request.deliver host shown rendering w =
      match w.folder.openFile path with
      | .error failure => .error failure w
      | .ok (names, opened) =>
        match opened.fill names (encoded rendering) with
        | (filled, some interruption) =>
          .error (.interrupted interruption) { w with folder := filled }
        | (filled, none) =>
          .ok () { w with
            folder := filled
            records := w.records ++ Record.atLeast shown [written path] } := by
  simp only [deliver, houtput]
  change (Job.ofExcept (w.folder.openFile path) >>= _) w = _
  cases w.folder.openFile path with
  | error failure => rfl
  | ok opened =>
    obtain ⟨names, opened⟩ := opened
    have hcontent : Text.Utf8.encode (rendering ++ "\n").toList = encoded rendering := rfl
    simp only [Job.ofExcept, pure_bind, hcontent]
    rcases opened.fill names (encoded rendering) with ⟨filled, _ | interruption⟩ <;> rfl

/-- A rendering is delivered in the same way whatever was recorded before. -/
theorem exists_delivers (request : Request) (host : Host) (shown : Level) (d : Folder)
    (printed rendering : String) :
    ∃ outcome d' printed' records,
      request.Delivers host d printed rendering outcome d' printed' ∧
      ∀ before, request.deliver host shown rendering ⟨d, printed, before⟩ =
        ended outcome ⟨d', printed', before ++ records⟩ := by
  cases houtput : request.outputPath? with
  | none =>
    simp only [deliver, houtput, Job.print]
    cases hscreen : host.screen (rendering ++ "\n") with
    | none =>
      refine ⟨_, _, _, [], .printed houtput hscreen, fun before => ?_⟩
      rw [List.append_nil]
      rfl
    | some cut =>
      refine ⟨_, _, _, [], .stopped houtput hscreen, fun before => ?_⟩
      rw [List.append_nil]
      rfl
  | some path =>
    simp only [deliver_of_output houtput]
    rcases d.openFile_cases path with ⟨names, htarget, hopen⟩ | ⟨failure, hopen, -⟩
    · simp only [hopen, Folder.fill, Folder.cuts_put]
      cases hcut : d.cuts names (encoded rendering) with
      | none =>
        exact ⟨_, _, _, _, .written houtput htarget hcut, fun before => rfl⟩
      | some cut =>
        refine ⟨_, _, _, [], .cut houtput htarget hcut, fun before => ?_⟩
        rw [List.append_nil]
        rfl
    · simp only [hopen]
      refine ⟨_, _, _, [], .unopened houtput hopen, fun before => ?_⟩
      rw [List.append_nil]
      rfl

section Results

variable {w w' : Workspace} {failure : Failure} {text : List Char} {rendering : String}

end Results

end Request

end LetArith
