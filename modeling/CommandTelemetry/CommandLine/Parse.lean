import CommandTelemetry.CommandLine.Consistency
import CommandTelemetry.CommandLine.Globals
import CommandTelemetry.CommandLine.Reader
import CommandTelemetry.FileSystem.Path

/-!
# Parsing a command line

The whole way from an argument vector to the records of every level. The first element is the name
of the running program; it is shown in usage texts and read no further. A level whose declarations
contradict each other is not read, and neither is anything above it.

* `Command.parse` reads an argument vector, and `ParseError` says why it did not.
-/

namespace CommandTelemetry

/-- Why an argument vector was not read. -/
inductive ParseError where
  /-- The declarations of a level on the way contradict each other. -/
  | inconsistent (level : Level)
  /-- Reading stopped before the end. -/
  | stopped (stop : Stop)

namespace Command

/-- The name that a program is called by when it is started by this word. -/
def programName? (word : Option String) : Option String :=
  word.bind fun word => Path.fileName? ⟨word⟩

/-- The outermost level of a command started by this word. -/
def outermost (command : Command) (word : Option String) : Level :=
  Level.ofCommand (programName? word) {} command

/-- The first level on the way that cannot be read against. -/
def inconsistency? (command : Command) (argv : List String) : Option Level :=
  (Reader.levelsMet (command.outermost argv.head?) {} argv.tail).find? (!·.isConsistent)

/-- Reads an argument vector against a command. -/
def parse (command : Command) (argv : List String) : Except ParseError Parsed :=
  match command.inconsistency? argv with
  | some level => .error (.inconsistent level)
  | none =>
    match Reader.read (command.outermost argv.head?) {} argv.tail with
    | .error stop => .error (.stopped stop)
    | .ok parsed => .ok (Globals.share parsed)

end Command

end CommandTelemetry
