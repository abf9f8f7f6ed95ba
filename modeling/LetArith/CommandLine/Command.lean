import LetArith.CommandLine.Settings
import LetArith.CommandLine.Usage
import LetArith.Repl
import LetArith.Run

namespace LetArith.CommandLine

/-- What a command leaves behind. -/
structure Exit where
  /-- The status that is returned, unless the command ends by an error that is not caught. -/
  status : Option Nat
  /-- What went to the standard output. -/
  printed : String := ""
  /-- What went to the standard error output behind the log records. -/
  complaint : String := ""
  /-- The log records, which went to the standard error output. -/
  records : List Record := []
  folder : Folder

/-- What went to the standard error output, with the time at which the log records were written. -/
def Exit.errors (time : String) (exit : Exit) : String :=
  Record.lines time exit.records ++ exit.complaint

/-- The level from which on log records are shown: the lowest if everything is to be shown, or else
    the first that is named by an option or from outside. A name that means nothing, and no name at
    all, stand for warnings. -/
def shownLevel (verbose : Bool) (chosen outside : Option String) : Level :=
  let names := (if verbose then some "DEBUG" else none).toList ++ chosen.toList ++ outside.toList
  match names.find? (· ≠ "") with
  | some name => (Level.ofName? (Text.upperCase name)).getD .warning
  | none => .warning

/-- The exit of a conversation. -/
def Exit.ofTranscript (folder : Folder) (transcript : Transcript) : Exit :=
  { status := some 0, printed := transcript.printed, records := transcript.records, folder }

/-- The complaint about arguments. -/
def argumentComplaint (message : String) : String :=
  usage ++ programName ++ ": error: " ++ message ++ "\n"

/-- The complaint about a run that failed. There is none about an error that is not caught. -/
def runComplaint (failure : Failure) : String :=
  if failure.status?.isSome then "[error] >>> " ++ failure.message ++ "\n" else ""

/-- The exit of a run. -/
def Exit.ofRun (host : Host) (shown : Level) (folder : Folder) (request : Request) : Exit :=
  match request.runOn host shown { folder } with
  | .ok () w => { status := some 0, printed := w.printed, records := w.records, folder := w.folder }
  | .error failure w =>
    { status := failure.status?, printed := w.printed, complaint := runComplaint failure
      records := w.records, folder := w.folder }

/-- What settings ask to be run, unless they ask for a conversation. -/
def Settings.request? (settings : Settings) : Option Request :=
  if settings.repl then none
  else
    settings.source.map fun source =>
      { source, inline := settings.inline, tokens := settings.tokens, json := settings.json
        output := settings.output }

/-- What a command is to do. -/
inductive Plan where
  /-- To say something, and nothing else. -/
  | say (status : Nat) (printed complaint : String)
  /-- To hold a conversation. -/
  | converse (level : Level) (verbose : Bool)
  /-- To run a source. -/
  | run (level : Level) (request : Request)

/-- What arguments and a log level from outside ask for. Without any argument it is a
    conversation. -/
def Plan.ofArguments (arguments : List String) (outside : Option String) : Plan :=
  if arguments = [] then .converse (shownLevel false none outside) false
  else
    match Settings.ofArguments arguments with
    | .error .help => .say 0 help ""
    | .error (.refused message) => .say 2 "" (argumentComplaint message)
    | .ok settings =>
      let level := shownLevel settings.verbose settings.logLevel outside
      match settings.request? with
      | some request => .run level request
      | none => .converse level settings.verbose

/-- What a plan leaves behind when it is carried out on a host, with an input and a file system. -/
def Plan.execute (host : Host) (input : List UInt8) (folder : Folder) : Plan → Exit
  | .say status printed complaint => { status := some status, printed, complaint, folder }
  | .converse level verbose => .ofTranscript folder (Repl.sessionOn host.stack level verbose input)
  | .run level request => .ofRun host level folder request

/-- The whole command: arguments, a log level from outside, an input and a file system in; a status,
    two outputs and a file system out. -/
def command (host : Host) (arguments : List String) (outside : Option String)
    (input : List UInt8) (folder : Folder) : Exit :=
  (Plan.ofArguments arguments outside).execute host input folder

end LetArith.CommandLine
