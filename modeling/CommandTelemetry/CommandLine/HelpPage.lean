import CommandTelemetry.CommandLine.Level
import CommandTelemetry.Text.Visible

/-!
# Help pages

The page that describes one command: what it is for, how it is called, and a table each for its
subcommands, its positionals and its options. In a table the descriptions start in one column.

* `HelpPage.render` is the page of a level, `HelpPage.versionLine` the line that shows a version.
-/

namespace CommandTelemetry.HelpPage

/-- A text filled up with spaces to a width. -/
def pad (width : Nat) (text : String) : String :=
  text ++ String.ofList (List.replicate (width - text.length) ' ')

/-- The width of the widest text. -/
def widest (texts : List String) : Nat := (texts.map String.length).foldl max 0

/-- A title and a line for each row, or nothing for no rows. -/
def table (title : String) (rows : List (String × String)) : String :=
  if rows = [] then ""
  else
    let width := widest (rows.map (·.1))
    "\n" ++ title ++ ":\n"
      ++ String.join (rows.map fun (name, help) => "  " ++ pad width name ++ "  " ++ help ++ "\n")

/-- A positional as it is called. -/
def positionalName (arg : Arg) : String :=
  let name := arg.valueName.getD arg.id
  (if arg.isRequired then "<" ++ name ++ ">" else "[" ++ name ++ "]")
    ++ (if arg.isMultiple then "..." else "")

/-- An option with its letter, its long name and its value. The long names start in one column. -/
def optionName (arg : Arg) : String :=
  let value := if arg.takesValues then " " ++ arg.shownValue else ""
  match arg.short, arg.long with
  | some letter, some long => "-" ++ letter.toString ++ ", --" ++ long ++ value
  | some letter, none => "-" ++ letter.toString ++ value
  | none, long => "    --" ++ long.getD arg.id ++ value

/-- A note on values, if there are any. -/
def note (title separator : String) (values : List String) : List String :=
  if values = [] then []
  else ["[" ++ title ++ ": " ++ String.intercalate separator values ++ "]"]

/-- What is said about an argument. -/
def description (arg : Arg) : String :=
  String.intercalate " " (arg.help.toList ++ note "default" " " arg.defaults
    ++ note "possible values" ", " arg.possible)

/-- The arguments that are not positionals. -/
def options (level : Level) : List Arg := level.args.filter (!·.isPositional)

/-- The level has options besides those that only show something. -/
def hasOwnOptions (level : Level) : Bool :=
  (options level).any fun arg => !arg.effectiveAction.shows && !arg.isRequired

/-- How the command is called. -/
def usageLine (level : Level) : String :=
  "Usage: " ++ Text.visible level.usage
    ++ (if hasOwnOptions level then " [OPTIONS]" else "")
    ++ String.join (level.positionals.map fun arg => " " ++ positionalName arg)
    ++ (if level.subcommands.isEmpty then ""
      else if level.spec.subcommandRequired then " <COMMAND>" else " [COMMAND]")
    ++ "\n"

/-- The page of a level. -/
def render (level : Level) : String :=
  ((level.spec.about.map (· ++ "\n\n")).getD "")
    ++ usageLine level
    ++ table "Commands" (level.commands.map fun command =>
      (command.name, command.spec.about.getD ""))
    ++ table "Arguments" (level.positionals.map fun arg => (positionalName arg, description arg))
    ++ table "Options" ((options level).map fun arg => (optionName arg, description arg))

/-- The line that shows the version of a level. -/
def versionLine (level : Level) : String :=
  level.spec.name ++ " " ++ level.spec.version.getD "" ++ "\n"

end CommandTelemetry.HelpPage
