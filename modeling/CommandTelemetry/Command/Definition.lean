import CommandTelemetry.Command.Arg

/-!
# Command definitions

A command line as a host program declares it: a command with its own arguments, and its subcommands
below it.
-/

namespace CommandTelemetry

/-- What one command declares, its subcommands apart. -/
structure CommandSpec where
  name : String
  about : Option String := none
  aliases : List String := []
  args : List Arg := []
  /-- The command has `-h` and `--help`. -/
  hasHelpFlag : Bool := true
  /-- The command has a subcommand `help`, if it has subcommands at all. -/
  hasHelpCommand : Bool := true
  /-- The version that `-V` and `--version` show. -/
  version : Option String := none
  subcommandRequired : Bool := false
  /-- The help page is shown when nothing is typed after the command. -/
  helpWhenBare : Bool := false
  /-- A word that is no subcommand is taken for a command from elsewhere. -/
  allowsExternal : Bool := false
deriving DecidableEq, Repr

namespace CommandSpec

/-- The command is called by this word. -/
def answersTo (spec : CommandSpec) (word : String) : Bool :=
  spec.name = word || spec.aliases.contains word

/-- The declared positionals in order. -/
def positionals (spec : CommandSpec) : List Arg := spec.args.filter (·.isPositional)

end CommandSpec

/-- A command with the commands below it. -/
structure Command where
  spec : CommandSpec
  subcommands : List Command

namespace Command

/-- The name of a command. -/
def name (command : Command) : String := command.spec.name

/-- A command without subcommands. -/
def leaf (spec : CommandSpec) : Command := ⟨spec, []⟩

/-- The first subcommand that is called by this word. -/
def subcommand? (command : Command) (word : String) : Option Command :=
  command.subcommands.find? (·.spec.answersTo word)

end Command

end CommandTelemetry
