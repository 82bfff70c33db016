import CommandTelemetry.Json.Reader
import CommandTelemetry.Report.Event

/-!
# Reading events

The way back from the object that is sent to the event that it stands for.

* `Event.ofJson?` reads a JSON value, `Event.ofWire?` a text.
-/

namespace CommandTelemetry

namespace Json

/-- The text of a string. -/
def text? : Json → Option String
  | .string text => some text
  | _ => none

/-- The truth value of a word. -/
def bool? : Json → Option Bool
  | .bool value => some value
  | _ => none

/-- The natural number of a number without exponent. -/
def nat? : Json → Option Nat
  | .number (.ofNat n) 0 => some n
  | _ => none

/-- The texts of an array of strings. -/
def texts? : Json → Option (List String)
  | .array items => items.mapM text?
  | _ => none

/-- The names and texts of an object of strings. -/
def textMembers? : Json → Option (List (String × String))
  | .object members => members.mapM fun (name, value) => (text? value).map (name, ·)
  | _ => none

end Json

namespace Event

/-- The event that a JSON object stands for. -/
def ofJson? (value : Json) : Option Event := do
  let command ← (← value.member? "command").text?
  let args ← (← value.member? "args").texts?
  let flags ← (← value.member? "flags").textMembers?
  let success ← (← value.member? "success").bool?
  let version ← (← value.member? "version").text?
  return {
    command, args, success, version
    flags := Flags.ofPairs flags
    error := (value.member? "error").bind Json.text?
    durationMs := (value.member? "duration_ms").bind Json.nat? }

/-- The event that a text stands for. -/
def ofWire? (text : String) : Option Event := (Json.read? text).bind ofJson?

end Event

end CommandTelemetry
