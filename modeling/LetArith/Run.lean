import LetArith.Host
import LetArith.Node.Document
import LetArith.Parser
import LetArith.Text.Line

namespace LetArith

/-- Why a run fails. -/
inductive Failure where
  /-- The source text does not follow the grammar. -/
  | unreadable (fault : Fault)
  /-- The name of the source file lacks the suffix of source files. -/
  | unsupportedName
  /-- A path holds a character that no path can hold. -/
  | embeddedNull
  /-- A path does not lead to a file. -/
  | obstructed (obstacle : Obstacle) (path : String)
  /-- The source file is not UTF-8. -/
  | malformed (run : Text.Utf8.Malformed)
  /-- The rendering is not written or printed to its end. -/
  | interrupted (interruption : Interruption)
  /-- A tree is too high for the stack. -/
  | exhausted
  deriving DecidableEq, Repr

/-- The suffix of source files. -/
def sourceSuffix : String := ".ringo"

namespace Failure

/-- The wording of a failure. -/
def message : Failure → String
  | .unreadable fault => fault.message
  | .unsupportedName => "Only " ++ sourceSuffix ++ " files are supported."
  | .embeddedNull => "embedded null byte"
  | .obstructed obstacle path =>
    "[Errno " ++ toString obstacle.code ++ "] " ++ obstacle.text ++ ": " ++ Text.quote path
  | .malformed run => run.message
  | .interrupted interruption => interruption.message
  | .exhausted => "maximum recursion depth exceeded"

/-- The exit status of a program that fails: 1 when the source text is at fault, and 2 when the
    source cannot be had or the rendering cannot be written. An exhausted stack is not caught, so
    no status is returned then. -/
def status? : Failure → Option Nat
  | .unreadable _ => some 1
  | .exhausted => none
  | _ => some 2

end Failure

/-- What a run is to do. -/
structure Request where
  /-- The source text itself, or the path of a source file. -/
  source : String
  /-- Whether the source is the text itself. -/
  inline : Bool := false
  /-- Whether the tokens are to be listed. -/
  tokens : Bool := false
  /-- Whether the trees are to be rendered as a JSON document. -/
  json : Bool := false
  /-- The path to write to. An empty one counts as none. -/
  output : Option String := none
  deriving DecidableEq, Repr

/-- The folder of a run, with what the run has printed and recorded. -/
structure Workspace where
  folder : Folder
  printed : String := ""
  records : List Record := []

/-- A part of a run. -/
abbrev Job (α : Type) := EStateM Failure Workspace α

namespace Job

/-- Adds log records that are to be shown. -/
def record (shown : Level) (records : List Record) : Job Unit :=
  modify fun w => { w with records := w.records ++ Record.atLeast shown records }

/-- Adds log records of events, until one exhausts the stack. -/
def note (stack : Stack) (shown : Level) (journal : List Event) : Job Unit := do
  modify fun w => { w with records := w.records ++ stack.records shown journal }
  if journal.any (stack.exhaustedBy shown) then throw .exhausted

/-- Prints a text and a line end, as far as the standard output takes them. -/
def print (host : Host) (text : String) : Job Unit := do
  let line := text ++ "\n"
  match host.screen line with
  | none => modify fun w => { w with printed := w.printed ++ line }
  | some (taken, interruption) =>
    modify fun w => { w with printed := w.printed ++ String.ofList (line.toList.take taken) }
    throw (.interrupted interruption)

/-- Goes on with the outcome of something that may fail. -/
def ofExcept {α : Type} : Except Failure α → Job α
  | .ok a => pure a
  | .error failure => throw failure

end Job

/-- Fails on a path that no file system takes. -/
def checkedPath (path : String) : Except Failure String :=
  if path.toList.contains '\x00' then .error .embeddedNull else .ok path

/-- The bytes of the file to which a path leads. -/
def Folder.load (d : Folder) (path : String) : Except Failure (List UInt8) := do
  let path ← checkedPath path
  (d.read path).mapError (.obstructed · path)

/-- Opens the file to which a path leads for writing. From then on it is there and empty. -/
def Folder.openFile (d : Folder) (path : String) : Except Failure (List String × Folder) := do
  let path ← checkedPath path
  let names ← (d.target path).mapError (.obstructed · path)
  pure (names, d.put names [])

namespace Request

/-- Whether the source names a source file. -/
def namesSourceFile (request : Request) : Bool :=
  sourceSuffix.toList.isSuffixOf request.source.toList

section Steps

variable (request : Request) (host : Host) (stack : Stack) (shown : Level)

/-- The source text, where files are read by `load`. The line ends of a file are unified, those of
    a text given inline are not. -/
def text (load : String → Except Failure (List UInt8)) : Job (List Char) := do
  if request.inline then pure request.source.toList
  else if !request.namesSourceFile then throw .unsupportedName
  else
    Job.record shown [⟨.commandLine, .info, "reading " ++ request.source⟩]
    let bytes ← Job.ofExcept (load request.source)
    let text ← Job.ofExcept ((Text.Utf8.decode bytes).mapError .malformed)
    pure (Text.unifyLineEnds text)

/-- What a step on a fresh lexer answers, unless the stack is exhausted by what is recorded of it. -/
def reading {α : Type} (step : Lexer → Step α) (text : List Char) : Job α := do
  let outcome := step { source := text }
  Job.note stack shown outcome.lexer.journal
  Job.ofExcept (outcome.toExcept.mapError .unreadable)

/-- How high the trees of a rendering may be. -/
def limit : Option Nat := if request.json then stack.document else stack.listing

/-- The rendering of a source text that is asked for. -/
def rendering (text : List Char) : Job String := do
  if request.tokens then
    let tokens ← reading stack shown Lexer.drain text
    pure (Token.lines tokens)
  else
    let nodes ← reading stack shown Parser.program text
    if nodes.all (Node.fits (request.limit stack)) then
      pure (if request.json then Node.documentText nodes else Node.lines nodes)
    else throw .exhausted

/-- The rendering that is asked for, where files are read by `load`. -/
def produce (load : String → Except Failure (List UInt8)) : Job String := do
  let text ← request.text shown load
  request.rendering stack shown text

/-- The path to write to, unless the rendering is to be printed. -/
def outputPath? : Option String := request.output.filter (· ≠ "")

/-- The record of having written to a path. -/
def written (path : String) : Record := ⟨.commandLine, .info, "wrote " ++ path⟩

/-- Writes a rendering, in UTF-8, where it is asked for, or prints it. The file is opened first, and
    then written as far as it takes it. -/
def deliver (rendering : String) : Job Unit := do
  match request.outputPath? with
  | none => Job.print host rendering
  | some path =>
    let (names, opened) ← Job.ofExcept ((← get).folder.openFile path)
    let (filled, interruption?) := opened.fill names (Text.Utf8.encode (rendering ++ "\n").toList)
    modify fun w => { w with folder := filled }
    match interruption? with
    | some interruption => throw (.interrupted interruption)
    | none => Job.record shown [written path]

/-- The whole run on a host, where log records are shown from a level on. -/
def runOn : Job Unit := do
  let rendering ← request.produce host.stack shown (← get).folder.load
  request.deliver host shown rendering

/-- The whole run where nothing is limited and all log records are shown. -/
def run : Job Unit := request.runOn {} .debug

end Steps

end Request

end LetArith
