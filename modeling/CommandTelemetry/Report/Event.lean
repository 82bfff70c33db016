import CommandTelemetry.Json.Value
import CommandTelemetry.Report.Duration
import CommandTelemetry.Report.Flags
import CommandTelemetry.Text.Blank

/-!
# Reports and events

A report says which command ran, with which arguments and flags, and how it ended. Stamped with a
version it is an event, the object that is sent.

* `Outcome.failed` is the one way in which an error text becomes an outcome;
* `Event.ofReport` keeps a duration for successes and an error for failures, never both;
* `Event.toJson` fixes the order of the members.
-/

namespace CommandTelemetry

/-- How an invocation ended. -/
inductive Outcome where
  /-- The command did its work in this time. -/
  | succeeded (duration : Duration)
  /-- The command stopped with this error. -/
  | failedWith (error : String)
deriving DecidableEq

namespace Outcome

/-- The error given for a failure whose text says nothing. -/
def unknownError : String := "unknown error"

/-- A failure with a text that says something. -/
def failed (error : String) : Outcome :=
  .failedWith (if Text.saysNothing error then unknownError else error)

end Outcome

/-- All that is known of an invocation when it has ended. -/
structure Report where
  command : String
  args : List String
  flags : Flags
  outcome : Outcome
deriving DecidableEq

/-- The object sent for one invocation. -/
structure Event where
  command : String
  args : List String
  flags : Flags
  success : Bool
  error : Option String
  durationMs : Option Nat
  version : String
deriving DecidableEq

namespace Event

/-- A report stamped with a version. -/
def ofReport (report : Report) (version : String) : Event where
  command := report.command
  args := report.args
  flags := report.flags
  success := match report.outcome with
    | .succeeded _ => true
    | .failedWith _ => false
  error := match report.outcome with
    | .succeeded _ => none
    | .failedWith error => some error
  durationMs := match report.outcome with
    | .succeeded duration => some duration.millis
    | .failedWith _ => none
  version := version

/-- A member that is left out when there is nothing to say. -/
def optional (name : String) (value : Option Json) : List (String × Json) :=
  (value.map (name, ·)).toList

/-- The members of an event in the order in which they are sent. -/
def members (event : Event) : List (String × Json) :=
  [("command", .string event.command),
    ("args", .array (event.args.map .string)),
    ("flags", .object (event.flags.pairs.map fun (name, value) => (name, .string value))),
    ("success", .bool event.success)]
  ++ optional "error" (event.error.map .string)
  ++ optional "duration_ms" (event.durationMs.map Json.ofNat)
  ++ [("version", .string event.version)]

/-- The event as a JSON object. -/
def toJson (event : Event) : Json := .object event.members

/-- The text that is sent. -/
def wire (event : Event) : String := event.toJson.compact

end Event

end CommandTelemetry
