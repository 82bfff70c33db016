import CommandTelemetry.CommandLine.HelpPage
import CommandTelemetry.Lifecycle.Hooks
import CommandTelemetry.Program.Banner
import CommandTelemetry.Program.Scaffold
import CommandTelemetry.Program.Services

/-!
# Runs of the program

One run of the program: the command line is read, the request is done, and the run is reported. A
run that only shows a page is not reported.

* `World` is what a run finds and leaves behind, `Program.execute` does a request in it;
* `Program.run` is a whole run, and `RunResult` what can be seen of it.
-/

namespace CommandTelemetry

/-- What a run of the program finds. -/
structure World where
  files : FileSystem
  environment : Environment
  docker : Option InstalledProgram

/-- What doing a request comes to: what it printed, the files it leaves, and the error it stopped
with, if any. -/
structure Execution where
  printed : String
  files : FileSystem
  error : Option String

/-- What can be seen of a run. -/
structure RunResult where
  /-- The run was reported. It is not when a page was asked for or the run was broken off. -/
  isTracked : Bool
  code : Nat
  output : String
  errors : String
  files : FileSystem
  outbox : Outbox

namespace Program

/-- A request that ended well and changed no file. -/
def done (world : World) (printed : String) : Execution := ⟨printed, world.files, none⟩

/-- Makes a project and says so. -/
def createProject (world : World) (name : String) (template : Template) (directory : String) :
    Execution :=
  match Scaffold.make world.files name template directory with
  | (.ok project, files) => ⟨Banner.created project.text template.name, files, none⟩
  | (.error error, files) => ⟨"", files, some error.message⟩

/-- Asks something of the services. -/
def askServices (world : World) (request : ServiceRequest) : Execution :=
  match Services.run world.docker world.environment request with
  | (printed, .ok _) => done world printed
  | (printed, .error error) => ⟨printed, world.files, some error.message⟩

/-- Does a request. -/
def execute (world : World) : Request → Execution
  | .welcome => done world Banner.welcome
  | .version => done world (Banner.version version)
  | .createProject name template directory => createProject world name template directory
  | .services request => askServices world request

/-- The first arguments under which the logo is left out. -/
def quietArguments : List String := ["--help", "-h"]

/-- What is printed before anything else. -/
def heading (arguments : List String) : String :=
  match arguments with
  | [] => ""
  | first :: _ => if quietArguments.contains first then "" else Banner.logo

/-- A run that shows a page or nothing at all, and is not reported. -/
def showPage (world : World) (outbox : Outbox) (code : Nat) (output errors : String) :
    RunResult :=
  ⟨false, code, output, errors, world.files, outbox⟩

/-- A run that failed and was reported. -/
def failed (lifecycle : Lifecycle) (outbox : Outbox) (output : String) (files : FileSystem)
    (invocation : FailedInvocation) (error : String) : RunResult :=
  let (response, outbox) := lifecycle.onFailure invocation error outbox
  ⟨true, response.code, output, response.printed, files, outbox⟩

/-- The code of a run that was broken off. -/
def brokenOffCode : Nat := 101

/-- A run whose command line could not be read. -/
def stopAt (lifecycle : Lifecycle) (world : World) (outbox : Outbox) (arguments : List String) :
    ParseError → RunResult
  | .stopped (.page (.help level)) =>
    showPage world outbox 0 (heading arguments ++ HelpPage.render level) ""
  | .stopped (.page (.version level)) =>
    showPage world outbox 0 (heading arguments ++ HelpPage.versionLine level) ""
  | .stopped (.page (.bare level)) =>
    showPage world outbox 2 (heading arguments) (HelpPage.render level)
  | .stopped (.fault fault) =>
    failed lifecycle outbox (heading arguments) world.files (.unparsed arguments) fault.headline
  | .inconsistent _ => showPage world outbox brokenOffCode (heading arguments) ""

/-- A run whose command line was read. -/
def perform (lifecycle : Lifecycle) (world : World) (outbox : Outbox) (arguments : List String)
    (parsed : Parsed) (request : Request) : RunResult :=
  let context := Lifecycle.onStart (Context.ofParsed lifecycle.tree parsed) outbox
  let execution := execute world request
  let output := heading arguments ++ execution.printed
  match execution.error with
  | some error => failed lifecycle outbox output execution.files (.parsed context) error
  | none =>
    let (_, outbox) := lifecycle.onSuccess context outbox
    ⟨true, 0, output, "", execution.files, outbox⟩

/-- The error for a command line that stands for no request. -/
def noRequest : String := "the command line stands for no request"

/-- Runs the program on an argument vector, which starts with the word that the program was called
by. -/
def run (dispatcher : Dispatcher) (argv : List String) (world : World) (outbox : Outbox) :
    RunResult :=
  let lifecycle : Lifecycle := ⟨CommandTree.ofCommand command, dispatcher⟩
  let arguments := argv.tail
  match command.parse argv with
  | .error error => stopAt lifecycle world outbox arguments error
  | .ok parsed => match Request.ofParsed? parsed with
    | none =>
      failed lifecycle outbox (heading arguments) world.files (.unparsed arguments) noRequest
    | some request => perform lifecycle world outbox arguments parsed request

end Program

end CommandTelemetry
