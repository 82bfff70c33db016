import CommandTelemetry.Report.TelemetryError
import CommandTelemetry.Settings.Environment
import CommandTelemetry.Text.Blank
import CommandTelemetry.Toml.Reader

/-!
# Settings

Where events are sent and how long one request may take. Settings are read from a file, in which
everything may be left out, and the environment may name another endpoint on top of it.

* `Config.load` reads the file, which may be absent or no file at all;
* `Config.overridden` applies the environment.
-/

namespace CommandTelemetry

/-- The settings of a program. -/
structure Config where
  endpoint : String
  /-- The longest time that one request may take, in seconds. -/
  timeoutSecs : Nat
deriving DecidableEq, Repr

/-- What is found at the place of the settings file. -/
inductive ConfigFile where
  | absent
  | bytes (content : Bytes)
  /-- Something is there that cannot be read. -/
  | unreadable (reason : String)
deriving DecidableEq, Repr

/-- A directory in the place of the settings file. -/
def ConfigFile.directory : ConfigFile := .unreadable "Is a directory (os error 21)"

namespace Config

/-- The settings when nothing is said. -/
def default : Config := ⟨"https://telemetry.acontext.io/v1/cli", 10⟩

/-- The largest number of seconds that can be set, and one. -/
def timeoutBound : Nat := Nat.pow 2 64

/-- An endpoint, the default one where nothing is said. -/
def endpointOf? : Option Toml → Option String
  | none => some default.endpoint
  | some (.string text) => some text
  | some _ => none

/-- A number of seconds, the default one where nothing is said. -/
def timeoutOf? : Option Toml → Option Nat
  | none => some default.timeoutSecs
  | some (.integer value) =>
    if 0 ≤ value ∧ value < timeoutBound then some value.toNat else none
  | some _ => none

/-- The settings of two values. -/
def ofValues? (endpoint timeout : Option Toml) : Option Config := do
  return ⟨← endpointOf? endpoint, ← timeoutOf? timeout⟩

/-- The keys of a table besides the given ones hold values that can be passed over. -/
def restIsReadable (known : List String) (table : TomlTable) : Bool :=
  table.entries.all fun (key, value) => known.contains key || value.isRepresentable

/-- The settings that a table gives under their names. -/
def ofTable? (table : TomlTable) : Option Config :=
  if restIsReadable ["endpoint", "request_timeout_secs"] table then
    ofValues? (table.get? "endpoint") (table.get? "request_timeout_secs")
  else none

/-- The settings that a value gives: a table under their names, an array in their order, and a date
or time none at all. -/
def ofValue? : Toml → Option Config
  | .table table => ofTable? table
  | .array items => ofValues? items[0]? items[1]?
  | .dateTime _ => some default
  | _ => none

/-- The settings that a document gives. -/
def ofDocument? (document : TomlTable) : Option Config :=
  if restIsReadable ["telemetry"] document then
    match document.get? "telemetry" with
    | none => some default
    | some value => ofValue? value
  else none

/-- The error for a text that gives no settings. -/
def malformed : TelemetryError := .config "the settings file is malformed"

/-- The settings that a text gives. -/
def ofText (text : String) : Except TelemetryError Config :=
  match (Toml.read? text).bind ofDocument? with
  | some config => .ok config
  | none => .error malformed

/-- Reads the settings file. -/
def load : ConfigFile → Except TelemetryError Config
  | .absent => .ok default
  | .unreadable reason => .error (.io reason)
  | .bytes content => match Utf8.decode? content with
    | some text => ofText text
    | none => .error (.io "stream did not contain valid UTF-8")

/-- The variable that names another endpoint. -/
def endpointVariable : String := "ACONTEXT_TELEMETRY_ENDPOINT"

/-- The endpoint that the environment names: a text that says something. -/
def namedEndpoint? (environment : Environment) : Option String :=
  (environment.text? endpointVariable).filter (!Text.saysNothing ·)

/-- The settings with the endpoint that the environment names, if it names one. -/
def overridden (config : Config) (environment : Environment) : Config :=
  { config with endpoint := (namedEndpoint? environment).getD config.endpoint }

end Config

end CommandTelemetry
