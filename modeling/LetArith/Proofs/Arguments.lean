import LetArith.CommandLine.Settings
import Mathlib.Tactic.Common

namespace LetArith.CommandLine

theorem exists_of_bind_eq_ok {α β : Type} {result : Except Stop α} {f : α → Except Stop β} {b : β}
    (h : result.bind f = .ok b) : ∃ a, result = .ok a ∧ f a = .ok b := by
  cases result with
  | error stop => cases h
  | ok a => exact ⟨a, rfl, h⟩

section Obey

variable {s t s' : Settings}

/-- No option takes back that everything is to be shown. -/
theorem Settings.verbose_of_obey {action : Action} (hverbose : s.verbose)
    (hobey : s.obey action = .ok s') : s'.verbose := by
  obtain ⟨switch, value⟩ := action
  cases switch with
  | help => cases hobey
  | verbose =>
    cases hobey
    rfl
  | inline | tokens | json | output | repl =>
    cases hobey
    exact hverbose
  | logLevel =>
    obtain ⟨level, -, hlevel⟩ := exists_of_bind_eq_ok hobey
    cases hlevel
    exact hverbose

private theorem verbose_of_foldlM_obey {acts : List Action} (hverbose : s.verbose)
    (hacts : acts.foldlM Settings.obey s = .ok s') : s'.verbose := by
  induction acts generalizing s with
  | nil =>
    cases hacts
    exact hverbose
  | cons action acts ih =>
    rw [List.foldlM_cons] at hacts
    obtain ⟨next, hobey, hrest⟩ := exists_of_bind_eq_ok hacts
    exact ih (Settings.verbose_of_obey hverbose hobey) hrest

end Obey

/-- Arguments that are accepted, with the settings before and behind them. As long as a source is
    sought the first text is taken for it, with a separator on one side at most. -/
inductive Accepts : (sought : Bool) → Settings → List Argument → Settings → Prop
  | nil {sought : Bool} {s : Settings} : Accepts sought s [] s
  | named {sought : Bool} {s next s' : Settings} {switch : Switch} {byLetter : Bool}
      {value : Option (List Char)} {rest left : List Argument} {acts : List Action} :
      actions switch byLetter value rest = .ok (acts, left) →
      acts.foldlM Settings.obey s = .ok next → Accepts sought next left s' →
      Accepts sought s (.named switch byLetter value :: rest) s'
  | source {s s' : Settings} {text : String} {rest : List Argument} :
      Accepts false { s with source := some text } rest s' →
      Accepts true s (.plain text :: rest) s'
  | sourceSeparator {s s' : Settings} {text : String} {rest : List Argument} :
      Accepts false { s with source := some text } rest s' →
      Accepts true s (.plain text :: .separator :: rest) s'
  | separatorSource {s s' : Settings} {text : String} {rest : List Argument} :
      Accepts false { s with source := some text } rest s' →
      Accepts true s (.separator :: .plain text :: rest) s'
  | separator {s s' : Settings} {rest : List Argument} :
      Accepts false s rest s' → Accepts true s (.separator :: rest) s'

section Accepts

variable {s t s' : Settings} {rest arguments : List Argument} {switch : Switch}
  {byLetter : Bool} {value : Option (List Char)}

theorem Accepts.verbose {sought : Bool} (h : Accepts sought s arguments s')
    (hverbose : s.verbose) : s'.verbose := by
  induction h with
  | nil => exact hverbose
  | named _ hobey _ ih => exact ih (verbose_of_foldlM_obey hverbose hobey)
  | source _ ih | sourceSeparator _ ih | separatorSource _ ih | separator _ ih =>
    exact ih hverbose

end Accepts

section Actions

variable {switch : Switch} {letters : List Char} {before behind left : List Argument}
  {acts : List Action}

end Actions

/-- The values that the option for the level takes. What is spelt like the separator counts as no
    level at all. -/
def IsLevel (value : String) : Prop :=
  value = separatorText ∨ Text.upperCase value ∈ logLevels

/-- Arguments that are one option about the log, with its value. -/
inductive AboutLog : List Argument → Prop
  | verbose {byLetter : Bool} : AboutLog [.named .verbose byLetter none]
  | level {byLetter : Bool} {value : String} :
      IsLevel value → AboutLog [.named .logLevel byLetter none, .plain value]
  | levelWithin {byLetter : Bool} {value : List Char} :
      IsLevel (String.ofList value) → AboutLog [.named .logLevel byLetter (some value)]

namespace AboutLog

variable {option before behind : List Argument} {s s' : Settings} {sought : Bool}

end AboutLog

section Texts

variable {text : String} {texts before after : List String} {arguments : List Argument}

namespace Argument

theorem ofTexts_cons_eq_ok_iff (htext : text ≠ separatorText) :
    ofTexts (text :: texts) = .ok arguments ↔
      ∃ argument rest, ofText text.toList = .ok argument ∧ ofTexts texts = .ok rest ∧
        arguments = argument :: rest := by
  rw [ofTexts, if_neg htext]
  cases ofText text.toList with
  | error switches => simp
  | ok argument =>
    cases ofTexts texts with
    | error ambiguity => simp [Except.map]
    | ok rest => simp [Except.map, eq_comm]

end Argument

end Texts

end LetArith.CommandLine
