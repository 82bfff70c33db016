import CommandTelemetry.Invocation.Context
import CommandTelemetry.Proofs.Command.TreeTheorems

/-!
# The command that runs

* `CommandTree.descend_congr` says that only the chosen commands decide where the way down ends;
* `CommandTree.node?_resolve` says that a command is always found there, and `Context.ofParsed_eq`
  what is kept of it.
-/

namespace CommandTelemetry

namespace CommandTree

variable {tree : CommandTree} {id : NodeId}

theorem descend_of_no_children (hnone : ∀ word, tree.child? id word = none) (top : LevelRecord)
    (below : List LevelRecord) : tree.descend id top below = (id, top) := by
  cases below with
  | nil => rfl
  | cons next rest => rw [descend, hnone]

theorem descend_congr {top other : LevelRecord} {below others : List LevelRecord}
    (h : below.map (·.command) = others.map (·.command)) :
    (tree.descend id top below).1 = (tree.descend id other others).1 := by
  induction below generalizing id top other others with
  | nil =>
    rw [List.map_nil, eq_comm, List.map_eq_nil_iff] at h
    subst h
    rfl
  | cons next rest ih =>
    cases others with
    | nil => cases h
    | cons next' rest' =>
      rw [List.map_cons, List.map_cons, List.cons_eq_cons] at h
      rw [descend, descend, h.1]
      cases tree.child? id next'.command with
      | none => rfl
      | some child => exact ih h.2

/-- The way down ends with the records of a level. -/
theorem descend_mem (tree : CommandTree) (id : NodeId) (top : LevelRecord)
    (below : List LevelRecord) : (tree.descend id top below).2 ∈ top :: below := by
  induction below generalizing id top with
  | nil => exact List.mem_singleton_self top
  | cons next rest ih =>
    rw [descend]
    cases tree.child? id next.command with
    | none => exact List.mem_cons_self
    | some child => exact List.mem_cons_of_mem _ (ih child next)

/-- The way down from a command of the tree ends at a command of the tree. -/
theorem Holds.node?_descend {parent : Option NodeId} {globals : List FlagSpec} {command : Command}
    (h : tree.Holds parent globals id command) (top : LevelRecord) (below : List LevelRecord) :
    ∃ node, tree.node? (tree.descend id top below).1 = some node := by
  induction below generalizing parent globals id command top with
  | nil =>
    obtain ⟨node, hnode, -⟩ := h.node
    exact ⟨node, hnode⟩
  | cons next rest ih =>
    rw [descend]
    cases hsub : command.subcommand? next.command with
    | none =>
      obtain ⟨node, hnode, -⟩ := h.node
      rw [h.child?_of_none hsub]
      exact ⟨node, hnode⟩
    | some sub =>
      obtain ⟨child, hchild, hbelow⟩ := h.child?_of_some hsub
      rw [hchild]
      exact ih hbelow next

/-- The command that runs is one of the tree. -/
theorem node?_resolve (command : Command) (parsed : Parsed) :
    ∃ node, (ofCommand command).node? ((ofCommand command).resolve parsed).1 = some node :=
  (holds_root command).node?_descend parsed.top parsed.below

end CommandTree

/-- What is kept of an invocation: the command that runs, and what was typed at its level. -/
theorem Context.ofParsed_eq {tree : CommandTree} {parsed : Parsed} {node : CommandNode}
    (hnode : tree.node? (tree.resolve parsed).1 = some node) :
    Context.ofParsed tree parsed
      = Context.make (tree.resolve parsed).1
          (node.positionalArgs (tree.resolve parsed).2.records)
          (node.explicitFlags (tree.resolve parsed).2.records) := by
  unfold Context.ofParsed
  dsimp only
  rw [hnode]

end CommandTelemetry
