import CommandTelemetry.Command.Tree
import CommandTelemetry.CommandLine.Matches
import CommandTelemetry.Report.Flags

/-!
# What is reported of a command line

From the records of a command line that was read: the command that runs, the options that were
typed, and the words that were typed for its positionals.

* `CommandTree.resolve` follows the chosen subcommands down the tree;
* `CommandNode.explicitFlags` and `positionalArgs` read the records of that command;
* `Invocation.withoutHelpWords` drops what asks for help.
-/

namespace CommandTelemetry

namespace CommandTree

/-- Follows levels from a node as far as the tree has them. -/
def descend (tree : CommandTree) (current : NodeId) (level : LevelRecord) :
    List LevelRecord → NodeId × LevelRecord
  | [] => (current, level)
  | next :: rest => match tree.child? current next.command with
    | some child => tree.descend child next rest
    | none => (current, level)

/-- The command that runs, and the records of its level. -/
def resolve (tree : CommandTree) (parsed : Parsed) : NodeId × LevelRecord :=
  tree.descend root parsed.top parsed.below

end CommandTree

namespace Match

/-- The value reported for an option: its values with commas, or `true` for none. -/
def shown (record : Match) : String :=
  if record.values = [] then "true" else String.intercalate "," record.values

end Match

namespace CommandNode

/-- The name and value of an option of this command that was typed. -/
def explicitFlag? (node : CommandNode) (record : Match) : Option (String × String) :=
  (node.flag? record.id).bind fun flag =>
    if record.source = .commandLine then some (flag.name, record.shown) else none

/-- The options of this command that were typed. A default is no such option, a typed value that
equals the default is. -/
def explicitFlags (node : CommandNode) (records : Matches) : Flags :=
  Flags.ofPairs (records.filterMap node.explicitFlag?)

/-- The values that were typed for one positional. -/
def typedValues (records : Matches) (id : String) : List String :=
  (((records.get? id).filter (·.source = .commandLine)).map (·.values)).getD []

/-- The values typed for the positionals of this command, in the order of declaration. -/
def positionalArgs (node : CommandNode) (records : Matches) : List String :=
  node.positionals.flatMap (typedValues records)

end CommandNode

namespace Invocation

/-- The words that ask for help. -/
def helpWords : List String := ["--help", "-h", "help"]

/-- Arguments without the words that ask for help. -/
def withoutHelpWords (args : List String) : List String :=
  args.filter fun arg => !helpWords.contains arg

end Invocation

end CommandTelemetry
