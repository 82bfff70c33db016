import CommandTelemetry.Command.Definition
import CommandTelemetry.Text.Visible

/-!
# The command tree

A command definition laid out as a table of nodes in preorder, so that the way up from a node is as
short as the way down. The table reads the declarations alone: no help flag, version flag or help
command that is added to a command later, and none that is declared to show something. Of the texts
that describe commands and options it keeps what a terminal shows.

* `CommandTree.ofCommand` builds the table;
* `CommandTree.child?`, `lookup` and `path` move on it.
-/

namespace CommandTelemetry

/-- A number of a node in its tree. -/
abbrev NodeId := Nat

/-- An option as the tree keeps it. -/
structure FlagSpec where
  id : String
  /-- The reported name: the long name, or the id of an option without one. -/
  name : String
  short : Option Char
  default : Option String
  help : Option String
  takesValue : Bool
deriving DecidableEq, Repr

namespace FlagSpec

/-- The option that an argument declares. An action left open counts as one that takes a value. -/
def ofArg (arg : Arg) : FlagSpec where
  id := arg.id
  name := arg.long.getD arg.id
  short := arg.short
  default := if arg.defaults = [] then none else some (String.intercalate "," arg.defaults)
  help := arg.help.map Text.visible
  takesValue := arg.action.all Action.takesValues

end FlagSpec

/-- Options by id, the one that was put last at the end. -/
def putFlag (flags : List FlagSpec) (spec : FlagSpec) : List FlagSpec :=
  flags.filter (·.id ≠ spec.id) ++ [spec]

/-- What the declarations of one command come to. -/
structure Scope where
  /-- The options of the command, those of its ancestors included. -/
  flags : List FlagSpec
  /-- The options that go on to its subcommands. -/
  globals : List FlagSpec
  /-- The ids of the positionals. -/
  positionals : List String

namespace Scope

/-- The scope of a command before its own declarations. -/
def inheriting (globals : List FlagSpec) : Scope := ⟨globals, globals, []⟩

/-- One more declaration. -/
def declare (scope : Scope) (arg : Arg) : Scope :=
  if arg.action.any Action.shows then scope
  else if arg.isPositional then { scope with positionals := scope.positionals ++ [arg.id] }
  else
    { scope with
      flags := putFlag scope.flags (FlagSpec.ofArg arg)
      globals := if arg.isGlobal then putFlag scope.globals (FlagSpec.ofArg arg) else scope.globals }

/-- The scope of a command below these global options. -/
def ofSpec (globals : List FlagSpec) (spec : CommandSpec) : Scope :=
  spec.args.foldl declare (inheriting globals)

end Scope

/-- A command in the table. -/
structure CommandNode where
  name : String
  aliases : List String
  about : Option String
  parent : Option NodeId
  children : List NodeId
  flags : List FlagSpec
  positionals : List String
deriving DecidableEq, Repr

namespace CommandNode

/-- The option of that id. -/
def flag? (node : CommandNode) (id : String) : Option FlagSpec := node.flags.find? (·.id = id)

/-- The option of that reported name. -/
def long? (node : CommandNode) (name : String) : Option FlagSpec := node.flags.find? (·.name = name)

/-- The option of that letter. -/
def short? (node : CommandNode) (letter : Char) : Option FlagSpec :=
  node.flags.find? (·.short = some letter)

/-- The command is called by this word. -/
def answersTo (node : CommandNode) (word : String) : Bool :=
  node.name = word || node.aliases.contains word

end CommandNode

/-- Commands in preorder; the number of a node is its place. -/
structure CommandTree where
  nodes : List CommandNode
deriving DecidableEq

namespace CommandTree

mutual

/-- The nodes of a command and of all below it, numbered from `next`. -/
def layOut (command : Command) (parent : Option NodeId) (globals : List FlagSpec) (next : NodeId) :
    List CommandNode :=
  match command with
  | ⟨spec, subcommands⟩ =>
    let scope := Scope.ofSpec globals spec
    let (children, below) := layOutAll subcommands next scope.globals (next + 1)
    { name := spec.name, aliases := spec.aliases, about := spec.about.map Text.visible
      parent, children
      flags := scope.flags, positionals := scope.positionals } :: below

/-- The numbers of the given commands, and the nodes of them and of all below them. -/
def layOutAll (commands : List Command) (parent : NodeId) (globals : List FlagSpec)
    (next : NodeId) : List NodeId × List CommandNode :=
  match commands with
  | [] => ([], [])
  | command :: rest =>
    let first := layOut command (some parent) globals next
    let (children, others) := layOutAll rest parent globals (next + first.length)
    (next :: children, first ++ others)

end

/-- The tree of a command definition. -/
def ofCommand (command : Command) : CommandTree := ⟨layOut command none [] 0⟩

/-- The number of the outermost command. -/
def root : NodeId := 0

/-- The path reported for the outermost command. -/
def rootPath : String := "root"

/-- The node of that number. -/
def node? (tree : CommandTree) (id : NodeId) : Option CommandNode := tree.nodes[id]?

/-- The node of that number is called by this word. -/
def answers (tree : CommandTree) (word : String) (id : NodeId) : Bool :=
  (tree.node? id).any (·.answersTo word)

/-- The first child that is called by this word. -/
def child? (tree : CommandTree) (parent : NodeId) (word : String) : Option NodeId :=
  (tree.node? parent).bind (·.children.find? (tree.answers word))

/-- The node reached from the root by one word after the other. -/
def lookup (tree : CommandTree) (words : List String) : Option NodeId :=
  words.foldlM tree.child? root

/-- The names on the way from below the root down to a node. -/
def segments (tree : CommandTree) (id : NodeId) : List String :=
  match tree.node? id with
  | none => []
  | some node => match node.parent with
    | none => []
    | some parent => if parent < id then tree.segments parent ++ [node.name] else []
termination_by id

/-- The names on the way to a node with dots between them; the root has a path of its own. -/
def path (tree : CommandTree) (id : NodeId) : String :=
  if tree.segments id = [] then rootPath else String.intercalate "." (tree.segments id)

end CommandTree

end CommandTelemetry
