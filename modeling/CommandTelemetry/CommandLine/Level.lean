import CommandTelemetry.Command.Definition

/-!
# Levels

A command together with everything that is understood at it: its own arguments, the global options
handed down to it, the automatic help and version flags, and the automatic command `help`. What a
command does without, of the automatic ones, all commands below it do without too.

* `Inheritance` is what a level hands down, `Level.ofCommand` the level of a command that gets it;
* `Level.enter` goes down to a subcommand.
-/

namespace CommandTelemetry

/-- What a command gets from the level above it. -/
structure Inheritance where
  /-- The global options of the level above. -/
  globals : List Arg := []
  /-- Every level on the way down has the automatic help flag. -/
  hasHelpFlag : Bool := true
  /-- Every level on the way down has the automatic command `help`. -/
  hasHelpCommand : Bool := true

/-- A command as arguments are read against it. -/
structure Level where
  spec : CommandSpec
  subcommands : List Command
  /-- Own arguments, then those handed down, then the automatic ones. -/
  args : List Arg
  /-- The words that lead here; none if the program was called by no name. -/
  calledBy : Option String
  hasHelpFlag : Bool
  hasHelpCommand : Bool

namespace Level

/-- The automatic flag that shows the help page. -/
def helpFlag : Arg :=
  { id := "help", long := some "help", short := some 'h', help := some "Print help"
    action := some .help }

/-- The automatic flag that shows the version. -/
def versionFlag : Arg :=
  { id := "version", long := some "version", short := some 'V', help := some "Print version"
    action := some .version }

/-- The name of the automatic command. -/
def helpName : String := "help"

/-- The automatic command that shows the help page of another one. -/
def helpCommand : Command := .leaf
  { name := helpName
    about := some "Print this message or the help of the given subcommand(s)"
    args := [{ id := "subcommand", valueName := some "COMMAND", count := some ⟨0, none⟩
               help := some "Print help for the subcommand(s)" }]
    hasHelpFlag := false }

/-- The arguments of a command below the given level. -/
def argsOf (above : Inheritance) (spec : CommandSpec) : List Arg :=
  spec.args
  ++ above.globals.filter (fun arg => spec.args.all (·.id ≠ arg.id))
  ++ (if above.hasHelpFlag && spec.hasHelpFlag then [helpFlag] else [])
  ++ (if spec.version.isSome then [versionFlag] else [])

/-- The level of a command that is reached by these words, below the given level. -/
def ofCommand (calledBy : Option String) (above : Inheritance) (command : Command) : Level where
  spec := command.spec
  subcommands := command.subcommands
  args := argsOf above command.spec
  calledBy := calledBy
  hasHelpFlag := above.hasHelpFlag && command.spec.hasHelpFlag
  hasHelpCommand := above.hasHelpCommand && command.spec.hasHelpCommand

/-- The words that lead here, as usage texts show them. -/
def usage (level : Level) : String := level.calledBy.getD level.spec.name

/-- The level has the automatic command `help`. -/
def offersHelp (level : Level) : Bool := level.hasHelpCommand && !level.subcommands.isEmpty

/-- All commands that a word can name here. -/
def commands (level : Level) : List Command :=
  level.subcommands ++ (if level.offersHelp then [helpCommand] else [])

/-- The first command that is called by this word. -/
def command? (level : Level) (word : String) : Option Command :=
  level.commands.find? (·.spec.answersTo word)

/-- The arguments that every command below gets too. -/
def globals (level : Level) : List Arg := level.args.filter (·.isGlobal)

/-- The command is the automatic command `help` of this level. -/
def isHelp (level : Level) (command : Command) : Bool :=
  command.name = helpName && level.offersHelp

/-- What a command found here gets. The command `help` gets no global options. -/
def inheritance (level : Level) (command : Command) : Inheritance where
  globals := if level.isHelp command then [] else level.globals
  hasHelpFlag := level.hasHelpFlag
  hasHelpCommand := level.hasHelpCommand

/-- The words that lead to a command found here. -/
def wordsTo (level : Level) (command : Command) : String :=
  (level.calledBy.map (· ++ " " ++ command.name)).getD command.name

/-- The level of a command found here. -/
def enter (level : Level) (command : Command) : Level :=
  ofCommand (some (level.wordsTo command)) (level.inheritance command) command

/-- The positionals in the order in which they are filled. -/
def positionals (level : Level) : List Arg := level.args.filter (·.isPositional)

/-- The option with this long name or alias. -/
def long? (level : Level) (name : String) : Option Arg :=
  level.args.find? fun arg =>
    !arg.isPositional && (arg.long = some name || arg.longAliases.contains name)

/-- The option with this letter. -/
def short? (level : Level) (letter : Char) : Option Arg :=
  level.args.find? (·.short = some letter)

end Level

end CommandTelemetry
