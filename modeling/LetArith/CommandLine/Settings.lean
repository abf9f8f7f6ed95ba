import LetArith.CommandLine.Argument
import LetArith.Text.Quoted
import LetArith.Text.UpperCase

namespace LetArith.CommandLine

/-- What the arguments ask for. -/
structure Settings where
  source : Option String := none
  inline : Bool := false
  tokens : Bool := false
  json : Bool := false
  output : Option String := none
  repl : Bool := false
  verbose : Bool := false
  logLevel : Option String := none
  deriving DecidableEq, Repr

/-- Why arguments are not acted on to the end. -/
inductive Stop where
  /-- The help was asked for. -/
  | help
  /-- Something is wrong with the arguments. -/
  | refused (message : String)
  deriving DecidableEq, Repr

/-- A complaint about an option. -/
def Stop.about (switch : Switch) (message : String) : Stop :=
  .refused ("argument " ++ switch.title ++ ": " ++ message)

/-- The complaint about a value for an option that takes none. -/
def Stop.ignoredValue (switch : Switch) (value : List Char) : Stop :=
  .about switch ("ignored explicit argument " ++ Text.quote (String.ofList value))

/-- An option to act on, with its value. -/
abbrev Action := Switch × Option String

/-- The options that one argument names, and the arguments behind it and behind the value that it
    may take. The letters of several options may stand together, and what stands behind the letter
    of an option that takes a value is its value. -/
def actionsOf (switch : Switch) :
    List Char → List Argument → Except Stop (List Action × List Argument)
  | [], rest =>
    if switch.takesValue then
      match rest with
      | .plain value :: rest => .ok ([(switch, some value)], rest)
      | _ => .error (.about switch "expected one argument")
    else .ok ([(switch, none)], rest)
  | letter :: letters, rest =>
    if switch.takesValue then .ok ([(switch, some (String.ofList (letter :: letters)))], rest)
    else
      match Switch.ofLetter? letter with
      | none => .error (.ignoredValue switch (letter :: letters))
      | some next => do
        let (actions, rest) ← actionsOf next letters rest
        pure ((switch, none) :: actions, rest)

/-- The options that an argument with an option in it names, and the arguments that are left. -/
def actions (switch : Switch) (byLetter : Bool) (value : Option (List Char))
    (rest : List Argument) : Except Stop (List Action × List Argument) :=
  match value with
  | none => actionsOf switch [] rest
  | some text =>
    if switch.takesValue then .ok ([(switch, some (String.ofList text))], rest)
    else if byLetter && text != [] then actionsOf switch text rest
    else .error (.ignoredValue switch text)

/-- The levels that may be asked for. -/
def logLevels : List String := ["DEBUG", "INFO", "WARNING", "ERROR"]

/-- The level of a value, in capital letters. -/
def chosenLevel (value : String) : Except Stop String :=
  let level := Text.upperCase value
  if level ∈ logLevels then .ok level
  else
    .error (.about .logLevel
      ("invalid choice: " ++ Text.quote level ++ " (choose from "
        ++ ", ".intercalate (logLevels.map Text.quote) ++ ")"))

/-- The settings after acting on an option. A value that is spelt like the separator counts as
    none. -/
def Settings.obey (settings : Settings) (action : Action) : Except Stop Settings :=
  let value := action.2.filter (· ≠ separatorText)
  match action.1 with
  | .help => .error .help
  | .inline => .ok { settings with inline := true }
  | .tokens => .ok { settings with tokens := true }
  | .json => .ok { settings with json := true }
  | .output => .ok { settings with output := value }
  | .repl => .ok { settings with repl := true }
  | .verbose => .ok { settings with verbose := true }
  | .logLevel => do
    let level ← value.mapM chosenLevel
    pure { settings with logLevel := level }

theorem length_actionsOf_le {switch : Switch} {letters : List Char} {rest left : List Argument}
    {acts : List Action} (h : actionsOf switch letters rest = .ok (acts, left)) :
    left.length ≤ rest.length := by
  induction letters generalizing switch acts with
  | nil =>
    unfold actionsOf at h
    split at h
    · split at h
      · cases h
        simp
      · cases h
    · cases h
      simp
  | cons letter letters ih =>
    unfold actionsOf at h
    split at h
    · cases h
      simp
    · split at h
      · cases h
      · next next _ =>
        cases hactions : actionsOf next letters rest with
        | error stop => simp [hactions, bind, Except.bind] at h
        | ok answer =>
          obtain ⟨acts', left'⟩ := answer
          simp only [hactions, bind, Except.bind, pure, Except.pure, Except.ok.injEq,
            Prod.mk.injEq] at h
          obtain ⟨-, rfl⟩ := h
          exact ih hactions

theorem length_actions_le {switch : Switch} {byLetter : Bool} {value : Option (List Char)}
    {rest left : List Argument} {acts : List Action}
    (h : actions switch byLetter value rest = .ok (acts, left)) : left.length ≤ rest.length := by
  unfold actions at h
  split at h
  · exact length_actionsOf_le h
  · split at h
    · cases h
      simp
    · split at h
      · exact length_actionsOf_le h
      · cases h

/-- The settings after acting on the arguments behind the source, with the texts and the unknown
    options among them, which are too many. -/
def settingsBehindSource (settings : Settings) :
    List Argument → Except Stop (Settings × List String)
  | [] => .ok (settings, [])
  | .plain text :: rest => do
    let (settings, extra) ← settingsBehindSource settings rest
    pure (settings, text :: extra)
  | .unknown text :: rest => do
    let (settings, extra) ← settingsBehindSource settings rest
    pure (settings, text :: extra)
  | .separator :: rest => do
    let (settings, extra) ← settingsBehindSource settings rest
    pure (settings, separatorText :: extra)
  | .named switch byLetter value :: rest =>
    match _ : actions switch byLetter value rest with
    | .error stop => .error stop
    | .ok (acts, left) => do
      let settings ← acts.foldlM Settings.obey settings
      settingsBehindSource settings left
termination_by arguments => arguments.length
decreasing_by
  all_goals first
    | exact Nat.lt_succ_self _
    | exact Nat.lt_succ_of_le (length_actions_le ‹_›)

/-- The settings after acting on arguments, with what is too many. The first text is the source. A
    separator directly before it, directly behind it or without any text is not counted. -/
def settingsOf (settings : Settings) : List Argument → Except Stop (Settings × List String)
  | [] => .ok (settings, [])
  | .plain text :: .separator :: rest =>
    settingsBehindSource { settings with source := some text } rest
  | .plain text :: rest => settingsBehindSource { settings with source := some text } rest
  | .separator :: .plain text :: rest =>
    settingsBehindSource { settings with source := some text } rest
  | .separator :: rest => settingsBehindSource settings rest
  | .unknown text :: rest => do
    let (settings, extra) ← settingsOf settings rest
    pure (settings, text :: extra)
  | .named switch byLetter value :: rest =>
    match _ : actions switch byLetter value rest with
    | .error stop => .error stop
    | .ok (acts, left) => do
      let settings ← acts.foldlM Settings.obey settings
      settingsOf settings left
termination_by arguments => arguments.length
decreasing_by
  all_goals first
    | exact Nat.lt_succ_self _
    | exact Nat.lt_succ_of_le (length_actions_le ‹_›)

/-- The options among which an argument does not decide. -/
def Ambiguity.message (ambiguity : Ambiguity) : String :=
  "ambiguous option: " ++ ambiguity.text ++ " could match "
    ++ ", ".intercalate (ambiguity.switches.map Switch.spelling)

/-- The settings that arguments ask for. -/
def Settings.ofArguments (texts : List String) : Except Stop Settings := do
  let arguments ← (Argument.ofTexts texts).mapError (.refused ·.message)
  let (settings, extra) ← settingsOf {} arguments
  if extra ≠ [] then .error (.refused ("unrecognized arguments: " ++ " ".intercalate extra))
  else if settings.source = none
      ∧ (settings.tokens ∨ settings.json ∨ settings.output.filter (· ≠ "") ≠ none) then
    .error (.refused "source is required with --tokens, --json or --out")
  else .ok settings

end LetArith.CommandLine
