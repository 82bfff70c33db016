import CommandTelemetry.Report.TelemetryError
import CommandTelemetry.Settings.Environment

/-!
# The settings directory

Where settings are kept: in a directory that is named for the occasion or by the environment, or
else in the platform's place for settings, or else in the home directory.

* `SettingsDirectory.resolve` names the directory, `SettingsDirectory.file` the file in it.
-/

namespace CommandTelemetry.SettingsDirectory

/-- The variable that names the directory. -/
def pathVariable : String := "ACONTEXT_PATH"

/-- The variable that names the home directory. -/
def homeVariable : String := "HOME"

/-- The variable that names the platform's place for settings. -/
def platformVariable : String := "XDG_CONFIG_HOME"

/-- The text after a tilde and a slash at the front. -/
def afterTilde? (text : String) : Option String :=
  match text.toList with
  | '~' :: '/' :: rest => some (String.ofList rest)
  | _ => none

/-- A text as a path, with the home directory for a tilde in front of its first slash. -/
def expandTilde (environment : Environment) (text : String) : Path :=
  match afterTilde? text, environment.path? homeVariable with
  | some rest, some home => home.join rest
  | _, _ => ⟨text⟩

/-- The home directory as the platform sees it: the one that is named, unless the name is empty, or
else the one of the account. -/
def platformHome? (environment : Environment) : Option Path :=
  ((environment.path? homeVariable).filter (·.text ≠ "")).or environment.accountHome

/-- The platform's place for settings, if the environment tells it. -/
def platform? (environment : Environment) : Option Path :=
  ((environment.path? platformVariable).filter Path.isAbsolute).or
    ((platformHome? environment).map (·.join ".config"))

/-- The error when nothing tells where settings are kept. -/
def unknown : TelemetryError := .config
  "Could not determine config path: no HOME directory or platform config directory found"

/-- The directory: one named for the occasion, one named by the environment, the program's own
directory in the platform's place, or a hidden one in the home directory. -/
def resolve (environment : Environment) (named : Option String) : Except TelemetryError Path :=
  match named.or (environment.text? pathVariable) with
  | some text => .ok (expandTilde environment text)
  | none => match platform? environment, environment.path? homeVariable with
    | some place, _ => .ok (place.join "acontext")
    | none, some home => .ok (home.join ".acontext")
    | none, none => .error unknown

/-- The settings file. -/
def file (environment : Environment) : Except TelemetryError Path :=
  (resolve environment none).map (·.join "config.toml")

end CommandTelemetry.SettingsDirectory
