import LetArith.CommandLine.Command
import Std.Time.Format

namespace LetArith.Program

open CommandLine

/-- The time of a log record. -/
def timeText : IO String := do
  let now ← Std.Time.PlainDateTime.now
  pure (now.format "uuuu-MM-dd HH:mm:ss,SSS")

/-- Writes the log records that matter enough. -/
def writeRecords (level : Level) (records : List Record) : IO Unit := do
  IO.eprint (Record.lines (← timeText) (Record.atLeast level records))

/-- Carries out a part of a conversation. -/
def writeTranscript (level : Level) (transcript : Transcript) : IO Unit := do
  writeRecords level transcript.records
  IO.print transcript.printed
  (← IO.getStdout).flush

/-- Holds a conversation, line by line. -/
partial def converse (level : Level) (verbose : Bool) : IO Unit := do
  writeTranscript level Repl.prompt
  let line ← (← IO.getStdin).getLine
  if line.isEmpty then writeTranscript level (.say "" ++ Repl.farewell)
  else answer verbose (Text.lines (Text.unifyLineEnds line.toList))
where
  answer (verbose : Bool) : List (List Char) → IO Unit
    | [] => converse level verbose
    | line :: lines => do
      let command := Repl.Command.ofLine line
      writeTranscript level (command.answer {} .debug verbose)
      unless command = .leave do
        unless lines.isEmpty do writeTranscript level Repl.prompt
        answer (command.verboseAfter verbose) lines

/-- The obstacle of a number and a wording. Some system calls negate the number, and wordings vary,
    so a known obstacle keeps its own. -/
def obstacleOfCode (code : UInt32) (details : String) : Obstacle :=
  let code := min code.toNat (0 - code).toNat
  (Obstacle.known.find? (·.code = code)).getD ⟨code, details⟩

/-- The obstacle that an error of the file system stands for. -/
def obstacleOf : IO.Error → Obstacle
  | .noFileOrDirectory _ code details | .alreadyExists _ code details
  | .inappropriateType _ code details | .invalidArgument _ code details
  | .permissionDenied _ code details | .resourceExhausted _ code details
  | .noSuchThing _ code details | .otherError code details | .resourceBusy code details
  | .hardwareFault code details => obstacleOfCode code details
  | error => ⟨0, toString error⟩

/-- Does something with the file of a path, or tells what is in the way. -/
def access {α : Type} (path : String) (action : String → IO α) : IO (Except Failure α) := do
  match checkedPath path with
  | .error failure => pure (.error failure)
  | .ok path =>
    try
      pure (.ok (← action path))
    catch error =>
      pure (.error (.obstructed (obstacleOf error) path))

/-- Ends a run that failed. -/
def complain (failure : Failure) : IO Nat := do
  IO.eprint (runComplaint failure)
  pure (failure.status?.getD 1)

/-- Runs a source on the real file system. -/
def run (level : Level) (request : Request) : IO Nat := do
  let load (path : String) : IO (List UInt8) := do pure (← IO.FS.readBinFile path).toList
  let loaded ←
    if !request.inline && request.namesSourceFile then access request.source load
    else pure (.ok [])
  match request.produce {} .debug (fun _ => loaded) { folder := {} } with
  | .error failure w =>
    writeRecords level w.records
    complain failure
  | .ok rendering w =>
    writeRecords level w.records
    match request.outputPath? with
    | none =>
      IO.println rendering
      pure 0
    | some path =>
      match ← access path fun path => IO.FS.Handle.mk path .write with
      | .error failure => complain failure
      | .ok file =>
        try
          file.putStr (rendering ++ "\n")
          file.flush
          writeRecords level [Request.written path]
          pure 0
        catch error =>
          complain (.interrupted (.blocked (obstacleOf error)))

/-- Carries out a plan. -/
def execute : Plan → IO Nat
  | .say status printed complaint => do
    IO.print printed
    IO.eprint complaint
    pure status
  | .converse level verbose => do
    writeTranscript level Repl.greeting
    converse level verbose
    pure 0
  | .run level request => run level request

end LetArith.Program

/-- The command line: arguments in, an exit status out. -/
def main (arguments : List String) : IO UInt32 := do
  let outside ← IO.getEnv "RINGO_LOG_LEVEL"
  let status ← LetArith.Program.execute (LetArith.CommandLine.Plan.ofArguments arguments outside)
  pure (UInt32.ofNat status)
