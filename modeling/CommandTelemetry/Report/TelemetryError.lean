import CommandTelemetry.Text.Decimal

/-!
# Failures of the telemetry layer

What can go wrong while settings are read or an event is sent. None of these ends an invocation;
they are shown in diagnostics only.
-/

namespace CommandTelemetry

/-- Why settings could not be read or an event could not be sent. -/
inductive TelemetryError where
  /-- The request could not be made or got no answer. -/
  | transport (reason : String)
  /-- The collector answered with a status that is no success. -/
  | rejected (status : Nat)
  /-- A file could not be read. -/
  | io (reason : String)
  /-- The settings could not be located or understood. -/
  | config (reason : String)
deriving DecidableEq, Repr

namespace TelemetryError

/-- The text of an error. -/
def message : TelemetryError → String
  | .transport reason => "Transport error: " ++ reason
  | .rejected status => "Collector rejected event with status " ++ Text.decimal status
  | .io reason => "IO error: " ++ reason
  | .config reason => "Configuration error: " ++ reason

/-- The text of the error underneath, where there is one. -/
def source? : TelemetryError → Option String
  | .transport reason | .io reason => some reason
  | .rejected _ | .config _ => none

end TelemetryError

end CommandTelemetry
