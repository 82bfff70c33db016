import CommandTelemetry.Settings.Config
import CommandTelemetry.Settings.Directory

/-!
# Settings at the start

A program starts with the settings of the file that the environment leads to. Where there is no such
file, or none that can be used, it starts with the default ones. Either way the environment may name
another endpoint.

* `Config.find` reads the file in its place;
* `Config.atStart` falls back on the default settings and applies the environment.
-/

namespace CommandTelemetry.Config

/-- Reads the settings file in the place that the environment tells; `look` says what is there. -/
def find (look : Path → ConfigFile) (environment : Environment) :
    Except TelemetryError Config := do
  let path ← SettingsDirectory.file environment
  load (look path)

/-- The settings that a program starts with. A file that cannot be used is passed over. -/
def atStart (look : Path → ConfigFile) (environment : Environment) : Config :=
  ((find look environment).toOption.getD default).overridden environment

end CommandTelemetry.Config
