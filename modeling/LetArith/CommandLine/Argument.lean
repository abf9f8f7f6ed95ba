import LetArith.CommandLine.Switch
import LetArith.Text.Digit

namespace LetArith.CommandLine

/-- An argument of the command line. -/
inductive Argument where
  /-- A text: the source, or the value of an option. -/
  | plain (text : String)
  /-- An option, by its letter or by its spelling, with the value in the same argument. -/
  | named (switch : Switch) (byLetter : Bool) (value : Option (List Char))
  /-- Something like an option that is none. -/
  | unknown (text : String)
  /-- The mark behind which all arguments are texts. -/
  | separator
  deriving DecidableEq, Repr

/-- The spelling of the separator. -/
def separatorText : String := "--"

/-- A text up to its first equals sign, and what follows that. -/
def splitAtEquals (text : List Char) : List Char × Option (List Char) :=
  (text.takeWhile (· != '='), (text.dropWhile (· != '=')).tail?)

/-- The option that a text spells exactly, and whether by its letter. -/
def exactSwitch? (text : List Char) : Option (Switch × Bool) :=
  match Switch.all.find? (·.spelling.toList = text), text with
  | some switch, _ => some (switch, false)
  | none, ['-', letter] => (Switch.ofLetter? letter).map (·, true)
  | none, _ => none

/-- Whether a text behind a dash makes a negative number with it: digits, perhaps with a point
    before the last of them. One line end behind them does not count. -/
def looksNegative (text : List Char) : Bool :=
  let text := if text.getLast? == some '\n' then text.dropLast else text
  let whole := text.takeWhile Text.isDigit
  match text.drop whole.length with
  | [] => whole != []
  | c :: fraction => c == '.' && fraction != [] && fraction.all Text.isDigit

/-- An argument that begins with a dash and spells no option. -/
def leftOver (text : List Char) : Argument :=
  if looksNegative text.tail || text.contains ' ' then .plain (String.ofList text)
  else .unknown (String.ofList text)

/-- What an argument is, or the options among which it does not decide. An option may be shortened as
    long as no other one begins the same way, and its value may follow an equals sign or, behind a
    letter, stand directly. What looks like a negative number or holds a space is a text even though
    it begins with a dash. -/
def Argument.ofText (text : List Char) : Except (List Switch) Argument :=
  match text with
  | '-' :: c :: rest =>
    let (name, value) := splitAtEquals text
    match exactSwitch? text, (if value.isSome then exactSwitch? name else none) with
    | some (switch, byLetter), _ => .ok (.named switch byLetter none)
    | none, some (switch, byLetter) => .ok (.named switch byLetter value)
    | none, none =>
      if c = '-' then
        match Switch.candidates name with
        | [] => .ok (leftOver text)
        | [switch] => .ok (.named switch false value)
        | switches => .error switches
      else
        match Switch.ofLetter? c with
        | some switch => .ok (.named switch true (some rest))
        | none => .ok (leftOver text)
  | _ => .ok (.plain (String.ofList text))

/-- Why arguments are refused before any of them is acted on. -/
structure Ambiguity where
  text : String
  switches : List Switch
  deriving DecidableEq, Repr

/-- What the arguments are. Behind the first separator all are texts. -/
def Argument.ofTexts : List String → Except Ambiguity (List Argument)
  | [] => .ok []
  | text :: texts =>
    if text = separatorText then .ok (.separator :: texts.map .plain)
    else
      match Argument.ofText text.toList with
      | .error switches => .error ⟨text, switches⟩
      | .ok argument => (Argument.ofTexts texts).map (argument :: ·)

end LetArith.CommandLine
