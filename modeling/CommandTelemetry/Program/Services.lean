import CommandTelemetry.Program.Request
import CommandTelemetry.Settings.Environment
import CommandTelemetry.Text.Decimal

/-!
# Local services

The local services are run by `docker compose`, a program of its own that may not be installed. It
is given a project name and a compose file by its environment.

* `Services.arguments?` and `Services.settings` are what it is given;
* `Services.run` runs it, and `ServiceError` is why that did not end well.
-/

namespace CommandTelemetry

/-- How another program ended. -/
inductive ExitStatus where
  | code (code : Nat)
  | signal (number : Nat)
deriving DecidableEq, Repr

/-- An installed program: what it prints for its arguments and variables, and how it ends. -/
structure InstalledProgram where
  prints : List String → List (String × String) → String
  status : ExitStatus

/-- Why the services could not be asked, or what became of it. -/
inductive ServiceError where
  | notInstalled
  /-- An argument cannot be passed on. -/
  | nulInArgument
  | exited (verb : String) (code : Nat)
  | killed (verb : String)
deriving DecidableEq, Repr

namespace ServiceError

/-- The text of an error. -/
def message : ServiceError → String
  | .notInstalled => "failed to run docker compose (is Docker installed?): " ++
      "No such file or directory (os error 2)"
  | .nulInArgument => "failed to run docker compose (is Docker installed?): " ++
      "nul byte found in provided data"
  | .exited verb code =>
    "docker compose " ++ verb ++ " exited with status " ++ Text.decimal code
  | .killed verb => "docker compose " ++ verb ++ " was terminated by a signal"

end ServiceError

namespace Services

/-- The word of the compose command, and the words after it. A request for the environment needs no
other program. -/
def arguments? : ServiceRequest → Option (String × List String)
  | .up => some ("up", ["-d"])
  | .down => some ("down", [])
  | .status => some ("ps", [])
  | .logs service follow =>
    some ("logs", (if follow then ["--follow"] else []) ++ service.toList)
  | .env => none

/-- The variables that name project and file, with what they are when nothing is said. -/
def defaults : List (String × String) :=
  [("COMPOSE_PROJECT_NAME", "acontext"), ("COMPOSE_FILE", "docker-compose.yaml")]

/-- The variables as they are passed on. -/
def settings (environment : Environment) : List (String × String) :=
  defaults.map fun (name, value) =>
    (name, ((environment.text? name).filter (· ≠ "")).getD value)

/-- The variables as they are printed. -/
def printed (settings : List (String × String)) : String :=
  String.join (settings.map fun (name, value) => name ++ "=" ++ value ++ "\n")

/-- How a run of the program ended. -/
def judge (verb : String) : ExitStatus → Except ServiceError Unit
  | .code code => if code = 0 then .ok () else .error (.exited verb code)
  | .signal _ => .error (.killed verb)

/-- Runs the program with these words: what it printed, and what became of it. -/
def compose (docker : Option InstalledProgram) (environment : Environment) (verb : String)
    (words : List String) : String × Except ServiceError Unit :=
  let arguments := "compose" :: verb :: words
  if arguments.any (·.toList.contains '\x00') then ("", .error .nulInArgument)
  else match docker with
    | none => ("", .error .notInstalled)
    | some program => (program.prints arguments (settings environment), judge verb program.status)

/-- Asks something of the services. -/
def run (docker : Option InstalledProgram) (environment : Environment) (request : ServiceRequest) :
    String × Except ServiceError Unit :=
  match arguments? request with
  | none => (printed (settings environment), .ok ())
  | some (verb, words) => compose docker environment verb words

end Services

end CommandTelemetry
