import CommandTelemetry.FileSystem.Path
import CommandTelemetry.Text.Utf8

/-!
# The environment

The variables that a process was started with, and what the system has of its account. The values of
variables are bytes; where text is wanted, a value that is no text counts as not set, and where a
path is wanted, every value will do.
-/

namespace CommandTelemetry

/-- The variables of a process, and its account. -/
structure Environment where
  bindings : List (String × Bytes)
  /-- The home directory that the system has for the account, if it has one. -/
  accountHome : Option Path := none
deriving DecidableEq, Repr

namespace Environment

/-- No variables, and an account without a home directory. -/
def empty : Environment := { bindings := [] }

/-- The value of a variable. -/
def bytes? (environment : Environment) (name : String) : Option Bytes :=
  (environment.bindings.find? (·.1 = name)).map (·.2)

/-- The value of a variable that is text. -/
def text? (environment : Environment) (name : String) : Option String :=
  (environment.bytes? name).bind Utf8.decode?

/-- The value of a variable as a path. -/
def path? (environment : Environment) (name : String) : Option Path :=
  (environment.bytes? name).map fun bytes => ⟨Utf8.decodeLossy bytes⟩

end Environment

end CommandTelemetry
