import CommandTelemetry.CommandLine.Parse
import CommandTelemetry.Dispatch.Dispatcher

/-!
# Requests

What the program can be asked to do, and the command line by which it is asked.

* `Program.command` declares the command line;
* `Request.ofParsed?` is the request that a command line stands for.
-/

namespace CommandTelemetry

/-- A kind of project that can be made. -/
inductive Template where
  | python
  | typescript
deriving DecidableEq, Repr

namespace Template

/-- The name of a template. -/
def name : Template → String
  | .python => "python"
  | .typescript => "typescript"

/-- All templates, in the order in which they are offered. -/
def all : List Template := [.python, .typescript]

/-- The template of that name. -/
def named? (name : String) : Option Template := all.find? (·.name = name)

/-- Every template is found by its name. -/
theorem named?_name (template : Template) : named? template.name = some template := by
  cases template <;> decide

end Template

/-- Something asked of the local services. -/
inductive ServiceRequest where
  | up
  | down
  | status
  | logs (service : Option String) (follow : Bool)
  | env
deriving DecidableEq, Repr

/-- Something asked of the program. -/
inductive Request where
  | welcome
  | version
  | createProject (name : String) (template : Template) (directory : String)
  | services (request : ServiceRequest)
deriving DecidableEq, Repr

namespace Program

/-- The name of the program. -/
def name : String := "acontext"

/-- The version that the program was built as. -/
def version : String := Dispatcher.devVersion

/-- The command that makes a project. -/
def projectCommand : Command := .leaf
  { name := "project"
    about := some "Scaffold a project directory"
    args :=
      [{ id := "name", valueName := some "NAME", action := some .set, isRequired := true },
        { id := "template", long := some "template", short := some 't'
          valueName := some "TEMPLATE", action := some .set
          defaults := [Template.python.name], possible := Template.all.map Template.name },
        { id := "dir", long := some "dir", valueName := some "DIR", action := some .set
          help := some "Parent directory of the new project"
          defaults := ["."], refusesEmpty := true }] }

/-- The command that shows what services wrote. -/
def logsCommand : Command := .leaf
  { name := "logs"
    about := some "Show service logs"
    args :=
      [{ id := "service", valueName := some "SERVICE", action := some .set },
        { id := "follow", long := some "follow", short := some 'f', action := some .setTrue }] }

/-- A command without arguments. -/
def plainCommand (name about : String) : Command := .leaf { name, about := some about }

/-- The command that makes something new. -/
def createCommand : Command where
  spec :=
    { name := "create"
      about := some "Create a new project from a template"
      subcommandRequired := true
      helpWhenBare := true }
  subcommands := [projectCommand]

/-- The command for the local services. -/
def dockerCommand : Command where
  spec :=
    { name := "docker"
      about := some "Manage the local Docker services"
      subcommandRequired := true
      helpWhenBare := true }
  subcommands :=
    [plainCommand "up" "Start the services in the background",
      plainCommand "down" "Stop and remove the services",
      plainCommand "status" "List the running services",
      logsCommand,
      plainCommand "env" "Print the compose environment"]

/-- The command line of the program. -/
def command : Command where
  spec :=
    { name
      about := some "Acontext CLI - Build context-aware AI applications"
      version := some version }
  subcommands :=
    [plainCommand "version" "Show version information", createCommand, dockerCommand]

end Program

namespace Request

/-- The first value of an argument. -/
def value? (records : Matches) (id : String) : Option String :=
  (records.get? id).bind (·.values.head?)

/-- The project that is asked for. -/
def projectOf? (records : Matches) : Option Request := do
  let name ← value? records "name"
  let template ← (value? records "template").bind Template.named?
  let directory ← value? records "dir"
  return .createProject name template directory

/-- What is asked of the services by the command of that name. -/
def serviceOf? (name : String) (records : Matches) : Option ServiceRequest :=
  if name = "up" then some .up
  else if name = "down" then some .down
  else if name = "status" then some .status
  else if name = "logs" then
    some (.logs (value? records "service") (value? records "follow" = some "true"))
  else if name = "env" then some .env
  else none

/-- The request that a command line of the program stands for. -/
def ofParsed? (parsed : Parsed) : Option Request :=
  match parsed.below with
  | [] => some .welcome
  | [level] => if level.command = "version" then some .version else none
  | [outer, inner] =>
    if outer.command = "create" then
      if inner.command = "project" then projectOf? inner.records else none
    else if outer.command = "docker" then
      (serviceOf? inner.command inner.records).map .services
    else none
  | _ => none

end Request

end CommandTelemetry
