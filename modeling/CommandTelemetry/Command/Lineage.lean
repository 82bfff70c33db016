import CommandTelemetry.Command.Outline

/-!
# Lineages

A command of a hierarchy together with the commands above it, up to the outermost one.

* `Command.lineages` lists every command with those above it, in the order of `Command.preorder`
  (`Command.map_command_lineages`);
* `Lineage.wayDown` are the commands that are passed on the way down to a command.
-/

namespace CommandTelemetry

/-- A command with the commands above it, the nearest one first. -/
structure Lineage where
  command : Command
  above : List Command

namespace Lineage

/-- A subcommand of the command, with the command as the nearest one above it. -/
def child (lineage : Lineage) (sub : Command) : Lineage := ⟨sub, lineage.command :: lineage.above⟩

/-- The commands on the way down to the command and the command itself, without the outermost. -/
def wayDown (lineage : Lineage) : List Command := (lineage.command :: lineage.above).reverse.tail

/-- The names on the way down. -/
def names (lineage : Lineage) : List String := lineage.wayDown.map (·.name)

/-- The outermost command is reached by no step. -/
theorem wayDown_outermost (command : Command) : (Lineage.mk command []).wayDown = [] := rfl

/-- The way down to a subcommand has one step more. -/
theorem wayDown_child (lineage : Lineage) (sub : Command) :
    (lineage.child sub).wayDown = lineage.wayDown ++ [sub] := by
  have hne : (lineage.command :: lineage.above).reverse ≠ [] := by simp
  show (sub :: lineage.command :: lineage.above).reverse.tail = _
  rw [List.reverse_cons, List.tail_append_of_ne_nil hne]
  rfl

theorem names_child (lineage : Lineage) (sub : Command) :
    (lineage.child sub).names = lineage.names ++ [sub.name] := by
  rw [names, wayDown_child, List.map_append]
  rfl

/-- There is one step for each command above. -/
theorem length_names (lineage : Lineage) : lineage.names.length = lineage.above.length := by
  simp [names, wayDown]

end Lineage

namespace Command

mutual

/-- A command below these and all commands below it in preorder, with those above them. -/
def lineagesBelow (above : List Command) (command : Command) : List Lineage :=
  match command with
  | ⟨spec, subcommands⟩ =>
    ⟨⟨spec, subcommands⟩, above⟩ :: lineagesBelowAll (⟨spec, subcommands⟩ :: above) subcommands

/-- The same for all given commands. -/
def lineagesBelowAll (above : List Command) (commands : List Command) : List Lineage :=
  match commands with
  | [] => []
  | command :: rest => lineagesBelow above command ++ lineagesBelowAll above rest

end

/-- All commands of a hierarchy in preorder, with those above them. -/
def lineages (command : Command) : List Lineage := command.lineagesBelow []

theorem lineagesBelow_eq (above : List Command) (command : Command) :
    command.lineagesBelow above
      = ⟨command, above⟩ :: lineagesBelowAll (command :: above) command.subcommands := by
  cases command with
  | mk spec subcommands => rw [lineagesBelow]

mutual

theorem map_command_lineagesBelow (above : List Command) (command : Command) :
    (command.lineagesBelow above).map (·.command) = command.preorder := by
  match command with
  | ⟨spec, subcommands⟩ =>
    rw [lineagesBelow_eq, preorder_eq, List.map_cons]
    exact congrArg _ (map_command_lineagesBelowAll _ subcommands)

theorem map_command_lineagesBelowAll (above : List Command) (commands : List Command) :
    (lineagesBelowAll above commands).map (·.command) = preorderAll commands := by
  match commands with
  | [] => rw [lineagesBelowAll, preorderAll]; rfl
  | command :: rest =>
    have hfirst := map_command_lineagesBelow above command
    rw [lineagesBelowAll, preorderAll, List.map_append, hfirst, map_command_lineagesBelowAll]

end

/-- Lineages stand in the order of their commands. -/
theorem map_command_lineages (command : Command) :
    command.lineages.map (·.command) = command.preorder :=
  map_command_lineagesBelow [] command

theorem length_lineagesBelow (above : List Command) (command : Command) :
    (command.lineagesBelow above).length = command.preorder.length := by
  rw [← map_command_lineagesBelow above, List.length_map]

end Command

end CommandTelemetry
