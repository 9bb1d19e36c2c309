import Stencil.Text.Basic

/-!
# Options

Command line arguments are options and operands. A long option, `--name`, takes its value after an
equals sign or from the next argument. Short options may share one argument, `-ab`; one that takes
a value takes the rest of the argument, or the next one if nothing is left. Two hyphens end the
options, and a single hyphen is an operand. Of an option given twice the last value counts.
-/

namespace Stencil.Cli

open Text

/-- An option that a command admits. -/
structure Switch where
  name : Text
  short : Option Char
  takesValue : Bool

/-- Options with their values, empty for those that take none, in the order given, and operands. -/
structure Arguments where
  options : List (Text × Text)
  operands : List Text
deriving DecidableEq

inductive OptionFault where
  | unknown (option : Text)
  | missingValue (option : Text)
  | unwantedValue (option : Text)
deriving DecidableEq

def OptionFault.message : OptionFault → Text
  | .unknown option => "No such option: ".toList ++ option
  | .missingValue option => "Option requires an argument: ".toList ++ option
  | .unwantedValue option => "Option does not take a value: ".toList ++ option

/-- What one argument gives: options with their values, and perhaps an option that takes the next
argument. -/
structure Reading where
  options : List (Text × Text)
  pending : Option Text

/-- Reads the short options of one argument, given what follows its hyphen. -/
def readShort (switches : List Switch) : Text → Except OptionFault Reading
  | [] => .ok ⟨[], none⟩
  | c :: cs =>
    match switches.find? (·.short = some c) with
    | none => .error (.unknown ['-', c])
    | some switch =>
      if switch.takesValue then
        .ok (if cs.isEmpty then ⟨[], some switch.name⟩ else ⟨[(switch.name, cs)], none⟩)
      else do
        let rest ← readShort switches cs
        .ok { rest with options := (switch.name, []) :: rest.options }

/-- Reads a long option, given what follows its hyphens. -/
def readLong (switches : List Switch) (t : Text) : Except OptionFault Reading :=
  let (name, value?) :=
    match cut? ['='] t with
    | some (name, value) => (name, some value)
    | none => (t, none)
  match switches.find? (·.name = name) with
  | none => .error (.unknown ("--".toList ++ name))
  | some switch =>
    match switch.takesValue, value? with
    | true, some value => .ok ⟨[(name, value)], none⟩
    | true, none => .ok ⟨[], some name⟩
    | false, none => .ok ⟨[(name, [])], none⟩
    | false, some _ => .error (.unwantedValue ("--".toList ++ name))

/-- Reads arguments. `pending` is an option that waits for its value. Where options and operands may
not be mixed, the first operand ends the options. -/
def readArguments (switches : List Switch) (mixed : Bool) (pending : Option Text) :
    List Text → Except OptionFault Arguments
  | [] =>
    match pending with
    | some name => .error (.missingValue ("--".toList ++ name))
    | none => .ok ⟨[], []⟩
  | arg :: args =>
    match pending, arg with
    | some name, value => do
      let rest ← readArguments switches mixed none args
      .ok { rest with options := (name, value) :: rest.options }
    | none, ['-', '-'] => .ok ⟨[], args⟩
    | none, '-' :: '-' :: long => do
      let reading ← readLong switches long
      let rest ← readArguments switches mixed reading.pending args
      .ok { rest with options := reading.options ++ rest.options }
    | none, '-' :: c :: cs => do
      let reading ← readShort switches (c :: cs)
      let rest ← readArguments switches mixed reading.pending args
      .ok { rest with options := reading.options ++ rest.options }
    | none, operand =>
      if mixed then do
        let rest ← readArguments switches mixed none args
        .ok { rest with operands := operand :: rest.operands }
      else .ok ⟨[], operand :: args⟩

namespace Arguments

/-- Whether an option was given. -/
def has (a : Arguments) (name : String) : Bool := (a.options.lookup name.toList).isSome

/-- The last value of an option. -/
def value? (a : Arguments) (name : String) : Option Text := a.options.reverse.lookup name.toList

end Arguments

end Stencil.Cli
