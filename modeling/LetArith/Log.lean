import LetArith.Journal

namespace LetArith

/-- How much a record matters. -/
inductive Level where
  | debug
  | info
  | warning
  | error
  | critical
  deriving DecidableEq, Repr

namespace Level

/-- All levels, those that matter least first. -/
def all : List Level := [.debug, .info, .warning, .error, .critical]

/-- The rank of a level among all of them. -/
def severity : Level → Nat
  | .debug => 10
  | .info => 20
  | .warning => 30
  | .error => 40
  | .critical => 50

/-- The name of a level. -/
def name : Level → String
  | .debug => "DEBUG"
  | .info => "INFO"
  | .warning => "WARNING"
  | .error => "ERROR"
  | .critical => "CRITICAL"

/-- The level of a name. -/
def ofName? (text : String) : Option Level := all.find? (·.name = text)

end Level

/-- The part of the program that a record comes from. -/
inductive Origin where
  | commandLine
  | lexer
  | parser
  deriving DecidableEq, Repr

/-- The name under which a part of the program keeps its records. -/
def Origin.name : Origin → String
  | .commandLine => "ringo.ringo_cli"
  | .lexer => "ringo.ringo_lexer"
  | .parser => "ringo.ringo_parser"

/-- A log record. -/
structure Record where
  origin : Origin
  level : Level
  message : String
  deriving DecidableEq, Repr

namespace Record

/-- A record as a line, with the time at which it is written. -/
def line (time : String) (record : Record) : String :=
  time ++ " - " ++ record.origin.name ++ " - " ++ record.level.name ++ " - " ++ record.message
    ++ "\n"

/-- The records that matter at least as much as a level, in order. -/
def atLeast (level : Level) (records : List Record) : List Record :=
  records.filter fun record => level.severity ≤ record.level.severity

/-- Records as lines, all with the same time. -/
def lines (time : String) (records : List Record) : String :=
  String.join (records.map (line time))

end Record

/-- What is noted while a text is read matters for finding mistakes only. -/
def Event.record (event : Event) : Record :=
  let origin :=
    match event with
    | .invalid _ => Origin.lexer
    | .bound _ _ | .finished _ => Origin.parser
  ⟨origin, .debug, event.message⟩

end LetArith
