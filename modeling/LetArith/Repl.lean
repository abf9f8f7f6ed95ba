import LetArith.Host
import LetArith.Parser
import LetArith.Text.Line
import LetArith.Text.Utf8

namespace LetArith

/-- What a part of a conversation prints, and the log records of it that are shown. -/
structure Transcript where
  printed : String := ""
  records : List Record := []
  deriving DecidableEq, Repr

namespace Transcript

/-- One part of a conversation and then another. -/
protected def append (a b : Transcript) : Transcript :=
  ⟨a.printed ++ b.printed, a.records ++ b.records⟩

instance : Append Transcript := ⟨Transcript.append⟩

/-- A text that is printed, followed by a line end. -/
def say (text : String) : Transcript := { printed := text ++ "\n" }

/-- What is recorded of what is noted while a text is read. -/
def ofJournal (stack : Stack) (shown : Level) (journal : List Event) : Transcript :=
  { records := stack.records shown journal }

end Transcript

namespace Repl

/-- The greeting of a conversation. -/
def greeting : Transcript :=
  .say "Welcome to the Ringo REPL. Type 'exit' or 'quit' to leave."

/-- The invitation to type a line. No line end follows it. -/
def prompt : Transcript := { printed := ">>> " }

/-- The words with which a conversation ends. -/
def farewell : Transcript := .say "Exiting Ringo REPL."

/-- The end of a conversation whose input ends. -/
def inputEnd : Transcript := prompt ++ .say "" ++ farewell

/-- The words that end a conversation. -/
def endingWords : List String := ["exit", "quit"]

/-- The word that turns the showing of tokens on and off, in small or capital letters. -/
def modeWord : String := "verbose-mode"

/-- The beginning of a line that asks for the tokens of its rest. -/
def tokensCommand : String := ":tokens "

/-- What a line asks for. -/
inductive Command where
  /-- To end the conversation. -/
  | leave
  /-- Nothing. -/
  | nothing
  /-- To turn the showing of tokens on or off. -/
  | toggle
  /-- To list the tokens of a text. -/
  | tokens (text : List Char)
  /-- To read a text as a program. -/
  | evaluate (text : List Char)
  deriving DecidableEq, Repr

/-- What a line asks for. The blanks at its ends do not count. -/
def Command.ofLine (line : List Char) : Command :=
  let text := Text.trim line
  if String.ofList text ∈ endingWords then .leave
  else if text = [] ∨ text.head? = some '#' then .nothing
  else if text.map Char.toLower = modeWord.toList then .toggle
  else if tokensCommand.toList.isPrefixOf text then .tokens (text.drop tokensCommand.length)
  else .evaluate text

/-- The report about an error that is not expected, by its sort and its wording. The lines that tell
    where it arose are left out. -/
def traceback (sort wording : String) : Transcript :=
  .say "[error] >>>" ++
    .say ("Traceback (most recent call last):\n" ++ sort ++ ": " ++ wording ++ "\n")

/-- The report about an exhausted stack. -/
def overflow (wording : String) : Transcript := traceback "RecursionError" wording

/-- Whether tokens are shown after a command. -/
def Command.verboseAfter (command : Command) (verbose : Bool) : Bool :=
  if command = .toggle then !verbose else verbose

section Answers

variable (stack : Stack) (shown : Level)

/-- The tokens of a text, each in its short form. -/
def echo (text : List Char) : Transcript :=
  match Lexer.drain { source := text } with
  | .ok tokens l =>
    .say ("[tokens] >>> " ++ Token.bracketed tokens) ++ .ofJournal stack shown l.journal
  | .error fault l => .say ("[error] >>> " ++ fault.message) ++ .ofJournal stack shown l.journal

/-- The token listing of a text. -/
def list (text : List Char) : Transcript :=
  match Lexer.drain { source := text } with
  | .ok tokens l => .say (Token.lines tokens) ++ .ofJournal stack shown l.journal
  | .error fault l => .say ("[error] >>> " ++ fault.message) ++ .ofJournal stack shown l.journal

/-- The trees of a text, or what is wrong with it. Nothing is printed for a text without
    statements. It is an error if a tree is too high to be recorded or to be listed. -/
def evaluateQuietly (text : List Char) : Except Transcript Transcript :=
  let outcome : Step (List Node) := Parser.program { source := text }
  let journal := outcome.lexer.journal
  let noted := Transcript.ofJournal stack shown journal
  if journal.any (stack.exhaustedBy shown) then .error noted
  else
    match outcome with
    | .ok nodes _ =>
      if nodes.isEmpty then .ok noted
      else if nodes.all (Node.fits stack.listing) then .ok (.say (Node.lines nodes) ++ noted)
      else .error noted
    | .error fault _ => .ok (.say ("[error] >>> " ++ fault.message) ++ noted)

/-- What there is to say of a text that is read as a program, with its tokens first if they are
    shown. -/
def evaluate (verbose : Bool) (text : List Char) : Except Transcript Transcript :=
  let before := if verbose then echo stack shown text else {}
  match evaluateQuietly stack shown text with
  | .ok after => .ok (before ++ after)
  | .error after => .error (before ++ after)

/-- The answer to a command. An error is reported, and the conversation goes on. -/
def Command.answer (verbose : Bool) : Command → Transcript
  | .leave => farewell
  | .nothing => {}
  | .toggle => .say ("[mode] >>> Verbose mode " ++ if verbose then "OFF" else "ON")
  | .tokens text => Repl.list stack shown text
  | .evaluate text =>
    match Repl.evaluate stack shown verbose text with
    | .ok transcript => transcript
    | .error transcript => transcript ++ overflow (stack.wording text)

/-- A conversation over lines, up to one that ends it. -/
def converse (verbose : Bool) : List (List Char) → Transcript
  | [] => inputEnd
  | line :: lines =>
    let command := Command.ofLine line
    let answered := prompt ++ command.answer stack shown verbose
    if command = .leave then answered
    else answered ++ converse (command.verboseAfter verbose) lines

/-- A whole conversation over an input. An input that is not UTF-8 is reported, and then nothing more
    is read. -/
def sessionOn (verbose : Bool) (input : List UInt8) : Transcript :=
  match Text.Utf8.decode input with
  | .ok text => greeting ++ converse stack shown verbose (Text.lines (Text.unifyLineEnds text))
  | .error run =>
    greeting ++ (prompt ++ traceback "UnicodeDecodeError" run.message) ++ inputEnd

end Answers

/-- A whole conversation where nothing is limited and all log records are shown. -/
def session (verbose : Bool) (input : List UInt8) : Transcript := sessionOn {} .debug verbose input

end Repl

end LetArith
