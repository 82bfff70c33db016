import CommandTelemetry.CommandLine.Level
import CommandTelemetry.Text.Decimal
import CommandTelemetry.Text.Headline
import CommandTelemetry.Text.Visible

/-!
# Faults

Why reading a command line stopped: a page was asked for, or an argument does not fit.

* `Stop` is either of the two, `Page` what is shown and `Fault` what does not fit;
* `Fault.message` is the wording of each cause;
* `Fault.headline` is the one line of it that is reported.
-/

namespace CommandTelemetry

/-- A page that is shown in place of a run. -/
inductive Page where
  /-- The help page of a level was asked for. -/
  | help (level : Level)
  /-- The version was asked for. -/
  | version (level : Level)
  /-- Nothing was typed after a command that wants more, and its help page stands in. -/
  | bare (level : Level)

/-- Why a command line does not fit. -/
inductive Fault where
  /-- An argument fits nowhere. -/
  | unknownArgument (shown : String)
  /-- A word names no command. -/
  | unknownCommand (word : String)
  /-- An argument that keeps one setting was met twice. -/
  | repeated (arg : Arg)
  /-- An occurrence has no value but needs one. -/
  | missingValue (arg : Arg)
  /-- A value is not among the allowed ones. -/
  | wrongValue (value : String) (arg : Arg)
  /-- A value is no count. -/
  | unreadableCount (value : String) (arg : Arg)
  /-- An occurrence has more values than it takes. -/
  | surplusValue (value : String) (arg : Arg)
  /-- An occurrence has fewer values than it needs. -/
  | tooFewValues (arg : Arg) (given : Nat)
  /-- An occurrence has another number of values than it needs. -/
  | wrongNumberOfValues (arg : Arg) (given : Nat)
  /-- A value has to be given after an equals sign. -/
  | missingEquals (arg : Arg)
  /-- A command was typed without the subcommand that it needs. -/
  | missingCommand (level : Level)
  /-- Required arguments were not typed. -/
  | missingArguments (args : List Arg)

/-- Why a command line was not read to its end. -/
inductive Stop where
  | page (page : Page)
  | fault (fault : Fault)

namespace Fault

/-- The wording of a cause. Of words from outside, what a terminal shows is kept; what a reader of
numbers adds on its own is left out. -/
def message : Fault → String
  | .unknownArgument shown => "unexpected argument '" ++ Text.visible shown ++ "' found"
  | .unknownCommand word => "unrecognized subcommand '" ++ Text.visible word ++ "'"
  | .repeated arg => "the argument '" ++ arg.shown ++ "' cannot be used multiple times"
  | .missingValue arg => "a value is required for '" ++ arg.shown ++ "' but none was supplied"
  | .wrongValue value arg | .unreadableCount value arg =>
    "invalid value '" ++ Text.visible value ++ "' for '" ++ arg.shown ++ "'"
  | .surplusValue value arg =>
    "unexpected value '" ++ Text.visible value ++ "' for '" ++ arg.shown
      ++ "' found; no more were expected"
  | .tooFewValues arg given =>
    Text.decimal arg.valueCount.least ++ " values required by '" ++ arg.shown ++ "'; only "
      ++ Text.decimal given ++ (if given = 1 then " was provided" else " were provided")
  | .wrongNumberOfValues arg given =>
    Text.decimal arg.valueCount.least ++ " values required for '" ++ arg.shown ++ "' but "
      ++ Text.decimal given ++ (if given = 1 then " was provided" else " were provided")
  | .missingEquals arg =>
    "equal sign is needed when assigning values to '" ++ arg.shown ++ "'"
  | .missingCommand level =>
    "'" ++ Text.visible level.usage ++ "' requires a subcommand but one was not provided"
  | .missingArguments args =>
    "the following required arguments were not provided:"
      ++ String.join (args.map fun arg => "\n  " ++ arg.shown)

/-- A short name of the cause, for when its message says nothing. -/
def label : Fault → String
  | .unknownArgument _ => "unexpected argument found"
  | .unknownCommand _ => "unrecognized subcommand"
  | .repeated _ => "an argument cannot be used with one or more of the other specified arguments"
  | .missingValue _ | .wrongValue _ _ => "one of the values isn't valid for an argument"
  | .unreadableCount _ _ => "invalid value for one of the arguments"
  | .surplusValue _ _ => "unexpected value for an argument found"
  | .tooFewValues _ _ => "more values required for an argument"
  | .wrongNumberOfValues _ _ => "too many or too few values for an argument"
  | .missingEquals _ => "equal is needed when assigning values to one of the arguments"
  | .missingCommand _ => "a subcommand is required but one was not provided"
  | .missingArguments _ => "one or more required arguments were not provided"

/-- The word in front of every printed message. -/
def marker : String := "error:"

/-- The text printed for a cause. -/
def render (fault : Fault) : String := marker ++ " " ++ fault.message

end Fault

/-- The line that is reported for a cause. -/
def Fault.headline (fault : Fault) : String := Text.headline Fault.marker fault.label fault.render

end CommandTelemetry
