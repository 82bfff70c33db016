/-!
# Arguments

An argument of a command as it is declared. An argument with neither a long name nor a short letter
is a positional; every other one is an option.

* `Action` is what happens when the argument is met;
* `Arg.effectiveAction` and `Arg.valueCount` settle what a declaration leaves open.
-/

namespace CommandTelemetry

/-- What happens when an argument is met. -/
inductive Action where
  /-- Keep the values; a second time is an error. -/
  | set
  /-- Add the values to those already there. -/
  | append
  /-- Keep `true`. -/
  | setTrue
  /-- Keep `false`. -/
  | setFalse
  /-- Keep how often it was met. -/
  | count
  /-- Show the help page. -/
  | help
  /-- Show the short help page. -/
  | helpShort
  /-- Show the long help page. -/
  | helpLong
  /-- Show the version. -/
  | version
deriving DecidableEq, Repr

namespace Action

/-- Actions that keep values from the command line. -/
def takesValues : Action → Bool
  | .set | .append => true
  | _ => false

/-- Actions that end the reading by showing something. -/
def shows : Action → Bool
  | .help | .helpShort | .helpLong | .version => true
  | _ => false

end Action

/-- How many values one occurrence takes; without `most` there is no upper limit. -/
structure ValueCount where
  least : Nat
  most : Option Nat
deriving DecidableEq, Repr

namespace ValueCount

/-- Exactly one value. -/
def one : ValueCount := ⟨1, some 1⟩

/-- No value. -/
def none : ValueCount := ⟨0, some 0⟩

/-- More values than `n` would be taken. -/
def takesMoreThan (count : ValueCount) (n : Nat) : Bool := count.most.all (n < ·)

/-- An occurrence may have several values, or may have one or none. -/
def isMultiple (count : ValueCount) : Bool := count.most ≠ some count.least || 1 < count.least

end ValueCount

/-- A declared argument. -/
structure Arg where
  id : String
  long : Option String := none
  short : Option Char := none
  longAliases : List String := []
  help : Option String := none
  valueName : Option String := none
  action : Option Action := none
  count : Option ValueCount := none
  defaults : List String := []
  defaultMissing : List String := []
  delimiter : Option Char := none
  possible : List String := []
  isGlobal : Bool := false
  isRequired : Bool := false
  isTrailing : Bool := false
  isLast : Bool := false
  allowsHyphens : Bool := false
  allowsNegativeNumbers : Bool := false
  requiresEquals : Bool := false
  refusesEmpty : Bool := false
deriving DecidableEq, Repr

namespace Arg

/-- Positionals have neither a long name nor a short letter. -/
def isPositional (arg : Arg) : Bool := arg.long.isNone && arg.short.isNone

/-- The action, when none is declared: a switch if no value may be taken, a list if a positional
may take any number of values, and otherwise one setting. -/
def effectiveAction (arg : Arg) : Action :=
  arg.action.getD <|
    if arg.count = some ValueCount.none then .setTrue
    else if arg.isPositional && arg.count.any (·.most = none) then .append
    else .set

/-- The number of values, when none is declared: one for actions that keep values. -/
def valueCount (arg : Arg) : ValueCount :=
  arg.count.getD (if arg.effectiveAction.takesValues then .one else .none)

/-- The argument takes values from the command line. -/
def takesValues (arg : Arg) : Bool := arg.valueCount.most ≠ some 0

/-- The argument goes on collecting when it has values already. -/
def isMultiple (arg : Arg) : Bool := arg.valueCount.isMultiple || arg.effectiveAction = .append

/-- The values the argument has when it is not typed. -/
def effectiveDefaults (arg : Arg) : List String :=
  if arg.defaults ≠ [] then arg.defaults
  else match arg.effectiveAction with
    | .setTrue => ["false"]
    | .setFalse => ["true"]
    | .count => ["0"]
    | _ => []

/-- The values of an occurrence that was given none. -/
def effectiveMissing (arg : Arg) : List String :=
  if arg.defaultMissing ≠ [] then arg.defaultMissing
  else match arg.effectiveAction with
    | .setTrue => ["true"]
    | .setFalse => ["false"]
    | _ => []

/-- The values that a switch can have. -/
def switchValues : List String := ["true", "false"]

/-- The allowed values, if not every value is: those declared, or the two of a switch. -/
def allowedValues (arg : Arg) : List String :=
  if arg.possible ≠ [] then arg.possible
  else match arg.effectiveAction with
    | .setTrue | .setFalse => switchValues
    | _ => []

/-- The values of the argument are counts. -/
def holdsCount (arg : Arg) : Bool := arg.possible = [] && arg.effectiveAction = .count

/-- The name of the value in usage texts. -/
def shownValue (arg : Arg) : String := "<" ++ arg.valueName.getD arg.id ++ ">"

/-- The argument as error messages name it. -/
def shown (arg : Arg) : String :=
  let value := if arg.takesValues then " " ++ arg.shownValue else ""
  match arg.long, arg.short with
  | some long, _ => "--" ++ long ++ value
  | none, some short => "-" ++ short.toString ++ value
  | none, none => arg.shownValue

end Arg

end CommandTelemetry
