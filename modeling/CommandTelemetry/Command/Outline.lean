import CommandTelemetry.Command.Tree

/-!
# Outlines

A command hierarchy without its options, read off the definition and read off the table.

* `Command.outline` is what the definition says, with texts as a terminal shows them and without
  positionals that show a page;
* `CommandTree.outline?` unfolds the table from a node on, through the lists of children;
* `Command.preorder` lists a command and all commands below it, each before its subcommands.
-/

namespace CommandTelemetry

/-- A command hierarchy by its words and texts alone. -/
structure Outline where
  name : String
  aliases : List String
  about : Option String
  positionals : List String
  subcommands : List Outline

/-- The ids of the positionals in the order of declaration, those that show a page left out. -/
def CommandSpec.wordIds (spec : CommandSpec) : List String :=
  (spec.positionals.filter fun arg => !arg.action.any Action.shows).map (·.id)

namespace Command

mutual

/-- The outline of a command. -/
def outline (command : Command) : Outline :=
  match command with
  | ⟨spec, subcommands⟩ =>
    { name := spec.name, aliases := spec.aliases, about := spec.about.map Text.visible
      positionals := spec.wordIds, subcommands := outlineAll subcommands }

/-- The outlines of the given commands. -/
def outlineAll (commands : List Command) : List Outline :=
  match commands with
  | [] => []
  | command :: rest => outline command :: outlineAll rest

end

mutual

/-- A command and all commands below it in preorder. -/
def preorder (command : Command) : List Command :=
  match command with
  | ⟨spec, subcommands⟩ => ⟨spec, subcommands⟩ :: preorderAll subcommands

/-- The given commands and all commands below them in preorder. -/
def preorderAll (commands : List Command) : List Command :=
  match commands with
  | [] => []
  | command :: rest => preorder command ++ preorderAll rest

end

theorem preorder_eq (command : Command) :
    command.preorder = command :: preorderAll command.subcommands := by
  cases command with
  | mk spec subcommands => rw [preorder]

end Command

namespace CommandTree

/-- The outline that a node unfolds to. There is none where a number of a child is out of range or
not larger than that of the node. -/
def outline? (tree : CommandTree) (id : NodeId) : Option Outline :=
  match _hnode : tree.node? id with
  | none => none
  | some node => do
    let subcommands ← node.children.mapM fun child =>
      if _hdown : id < child then tree.outline? child else none
    return { name := node.name, aliases := node.aliases, about := node.about
             positionals := node.positionals, subcommands }
termination_by tree.nodes.length - id
decreasing_by
  have hid : id < tree.nodes.length := (List.getElem?_eq_some_iff.1 _hnode).1
  exact Nat.sub_lt_sub_left hid _hdown

end CommandTree

end CommandTelemetry
