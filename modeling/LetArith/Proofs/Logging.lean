import LetArith.Proofs.Arguments
import LetArith.Proofs.Heights
import LetArith.Proofs.Status
import Mathlib.Logic.Relation

namespace LetArith

namespace Record

variable {level level' : Level} (records more : List Record)

theorem atLeast_append (level : Level) :
    atLeast level (records ++ more) = atLeast level records ++ atLeast level more :=
  List.filter_append ..

/-- Of the records that are shown from a level on, those that are shown from a higher level on. -/
theorem atLeast_atLeast (h : level'.severity ≤ level.severity) :
    atLeast level (atLeast level' records) = atLeast level records := by
  rw [atLeast, atLeast, List.filter_filter]
  refine List.filter_congr fun record _ => ?_
  rw [Bool.eq_iff_iff]
  simpa using h.trans

private theorem debug_severity_le (level : Level) : Level.debug.severity ≤ level.severity := by
  cases level <;> decide

end Record

namespace Job

variable {α β : Type} {level : Level}

/-- What is left behind by a job, with those records that are shown from a level on. -/
def shownFrom (level : Level) :
    EStateM.Result Failure Workspace α → EStateM.Result Failure Workspace α
  | .ok a w => .ok a { w with records := Record.atLeast level w.records }
  | .error failure w => .error failure { w with records := Record.atLeast level w.records }

/-- A job does what another does, and of its records it shows those that matter as much as a
    level. -/
def Shows (level : Level) (job other : Job α) : Prop :=
  ∀ d printed records, job ⟨d, printed, Record.atLeast level records⟩ =
    shownFrom level (other ⟨d, printed, records⟩)

namespace Shows

theorem ofExcept (outcome : Except Failure α) :
    Shows level (Job.ofExcept outcome) (Job.ofExcept outcome) := by
  cases outcome <;> exact fun _ _ _ => rfl

theorem pure (a : α) : Shows level (Pure.pure a) (Pure.pure a) := ofExcept (.ok a)

theorem throw (failure : Failure) : Shows level (throw failure : Job α) (throw failure) :=
  ofExcept (.error failure)

theorem record (level : Level) (records : List Record) :
    Shows level (Job.record level records) (Job.record .debug records) := by
  intro d printed before
  change EStateM.Result.ok ()
      (⟨d, printed, Record.atLeast level before ++ Record.atLeast level records⟩ : Workspace) =
    shownFrom level (.ok () ⟨d, printed, before ++ Record.atLeast .debug records⟩)
  rw [shownFrom, Record.atLeast_append, Record.atLeast_atLeast _ (Record.debug_severity_le level)]

theorem bind {job other : Job α} {next next' : α → Job β} (hjob : Shows level job other)
    (hnext : ∀ a w w', other w = .ok a w' → Shows level (next a) (next' a)) :
    Shows level (job >>= next) (other >>= next') := by
  intro d printed records
  simp only [Bind.bind, EStateM.bind, hjob d printed records]
  cases hother : other ⟨d, printed, records⟩ with
  | ok a w => exact hnext a _ w hother w.folder w.printed w.records
  | error failure w => rfl

theorem ite {c : Prop} [Decidable c] {job other job' other' : Job α} (hjob : Shows level job other)
    (hjob' : Shows level job' other') :
    Shows level (if c then job else job') (if c then other else other') := by
  split <;> assumption

end Shows

end Job

namespace Request

variable (request : Request) {host : Host} {stack stack' : Stack} {level : Level}

end Request

namespace CommandLine

section Texts

variable {texts texts' option : List String} {s t : Settings}

/-- Texts that are one option about the log, with its value. -/
def LogOption (texts : List String) : Prop :=
  ∃ arguments, Argument.ofTexts texts = .ok arguments ∧ AboutLog arguments

namespace LogOption

theorem verbose : LogOption ["--verbose"] :=
  ⟨[.named .verbose false none], by decide +kernel, .verbose⟩

/-- A text that does not begin with a dash is no option. -/
theorem ofText_of_head {text : String} (hdash : text.toList.head? ≠ some '-') :
    Argument.ofText text.toList = .ok (.plain text) := by
  unfold Argument.ofText
  split
  · next c rest htext => simp [htext] at hdash
  · rw [String.ofList_toList]

/-- A text that is a level in capital letters is no option. -/
theorem ofText_of_level {value : String} (hvalue : Text.upperCase value ∈ logLevels) :
    Argument.ofText value.toList = .ok (.plain value) := by
  refine ofText_of_head fun hhead => ?_
  obtain ⟨rest, hrest⟩ := List.head?_eq_some_iff.1 hhead
  have hcapital : Text.capitals '-' = ['-'] := by decide +kernel
  have hupper : (Text.upperCase value).toList.head? = some '-' := by
    rw [Text.upperCase, String.toList_ofList, hrest, List.flatMap_cons, hcapital]
    rfl
  have hlevels : ∀ level ∈ logLevels, level.toList.head? ≠ some '-' := by decide
  exact hlevels _ hvalue hupper

private theorem ofText_separatorText_ne_ok (argument : Argument) :
    Argument.ofText separatorText.toList ≠ .ok argument := by
  have hambiguous : (Argument.ofText separatorText.toList).isOk = false := by decide +kernel
  intro h
  rw [h] at hambiguous
  cases hambiguous

theorem level {value : String} (hvalue : Text.upperCase value ∈ logLevels) :
    LogOption ["--log-level", value] := by
  have htext := ofText_of_level hvalue
  have hne : value ≠ separatorText := by
    rintro rfl
    exact ofText_separatorText_ne_ok _ htext
  refine ⟨[.named .logLevel false none, .plain value], ?_, .level (.inr hvalue)⟩
  have hname : Argument.ofText "--log-level".toList = .ok (.named .logLevel false none) := by
    decide +kernel
  refine (Argument.ofTexts_cons_eq_ok_iff (by decide)).2 ⟨_, [.plain value], hname, ?_, rfl⟩
  exact (Argument.ofTexts_cons_eq_ok_iff hne).2 ⟨_, [], htext, rfl, rfl⟩

theorem levelWithin {value : String} (hvalue : Text.upperCase value ∈ logLevels) :
    LogOption ["--log-level=" ++ value] := by
  have htext : Argument.ofText ("--log-level=" ++ value).toList =
      .ok (.named .logLevel false (some value.toList)) := by
    rw [String.toList_append]
    rfl
  have hne : "--log-level=" ++ value ≠ separatorText := by
    intro h
    rw [h] at htext
    exact ofText_separatorText_ne_ok _ htext
  refine ⟨[.named .logLevel false (some value.toList)], ?_, .levelWithin (.inr ?_)⟩
  · exact (Argument.ofTexts_cons_eq_ok_iff hne).2 ⟨_, [], htext, rfl, rfl⟩
  · rwa [String.ofList_toList]

end LogOption

end Texts

/-- The exit with those records that are shown from a level on. -/
def Exit.shownFrom (level : Level) (exit : Exit) : Exit :=
  { exit with records := Record.atLeast level exit.records }

section Runs

variable {texts : List String} {s : Settings} {source : String}
  (hs : Settings.ofArguments texts = .ok s) (hsource : s.source = some source)
  (hrepl : s.repl = false)

include hs hsource hrepl

end Runs

end CommandLine

end LetArith
