import CommandTelemetry.Command.Lineage
import CommandTelemetry.Proofs.Command.TreeTheorems

/-!
# Where the commands stand

The table holds the commands of a definition in preorder: a command stands in front of everything
below it, and the subcommands of a command one after the other behind it.

* `CommandTree.HasChild` ties a node to its children, which are numbered behind it
  (`CommandTree.Holds.lt_child`);
* `CommandTree.Placed` says of a command with those above it that it stands at a place, among the
  children of the command above, with the options that are handed down to it;
* `CommandTree.placed_of_lineages` says that every command does, at its place in preorder.
-/

namespace CommandTelemetry

/-- The options that arrive below these commands, of which each stands below those behind it. -/
def Scope.handedDown : List Command → List FlagSpec
  | [] => []
  | command :: above => (ofSpec (handedDown above) command.spec).globals

namespace CommandTree

variable {tree : CommandTree} {parent : Option NodeId} {globals : List FlagSpec}
  {command outermost sub : Command} {commands : List Command} {id above next child place : NodeId}
  {lineage : Lineage}

mutual

/-- A command takes as many places as there are commands in it. -/
theorem length_layOut (command : Command) (parent : Option NodeId) (globals : List FlagSpec)
    (next : NodeId) : (layOut command parent globals next).length = command.preorder.length := by
  match command with
  | ⟨spec, subcommands⟩ =>
    rw [layOut_eq, Command.preorder_eq, List.length_cons, List.length_cons]
    exact congrArg (· + 1) (length_layOutAll subcommands _ _ _)

theorem length_layOutAll (commands : List Command) (above : NodeId) (globals : List FlagSpec)
    (next : NodeId) :
    (layOutAll commands above globals next).2.length = (Command.preorderAll commands).length := by
  match commands with
  | [] => rw [layOutAll, Command.preorderAll]; rfl
  | command :: rest =>
    have hfirst := length_layOut command (some above) globals next
    rw [layOutAll, Command.preorderAll, List.length_append, List.length_append, hfirst,
      length_layOutAll rest]

end

/-! ## The lists of children -/

/-- The commands that are laid out from a place on are numbered from there on. -/
theorem le_of_mem_layOutAll (h : child ∈ (layOutAll commands above globals next).1) :
    next ≤ child := by
  induction commands generalizing next with
  | nil =>
    rw [layOutAll] at h
    exact absurd h List.not_mem_nil
  | cons command rest ih =>
    rw [layOutAll, List.mem_cons] at h
    rcases h with rfl | h
    · exact Nat.le_refl _
    · exact Nat.le_trans (Nat.le_add_right _ _) (ih h)

theorem pairwise_layOutAll (commands : List Command) (above : NodeId) (globals : List FlagSpec)
    (next : NodeId) : (layOutAll commands above globals next).1.Pairwise (· < ·) := by
  induction commands generalizing next with
  | nil =>
    rw [layOutAll]
    exact List.Pairwise.nil
  | cons command rest ih =>
    rw [layOutAll]
    refine List.pairwise_cons.2 ⟨fun other hother => ?_, ih _⟩
    -- the next command starts behind all nodes of this one, and there is one at least
    have hbehind := le_of_mem_layOutAll hother
    have hlength : 0 < (layOut command (some above) globals next).length := by
      rw [layOut_eq]
      exact Nat.succ_pos _
    exact Nat.lt_of_lt_of_le (Nat.lt_add_of_pos_right hlength) hbehind

/-- A node is among the children of another. -/
def HasChild (tree : CommandTree) (above child : NodeId) : Prop :=
  ∃ node, tree.node? above = some node ∧ child ∈ node.children

theorem hasChild_of_child? {word : String} (h : tree.child? id word = some child) :
    tree.HasChild id child := by
  obtain ⟨node, hnode, hfind⟩ := Option.bind_eq_some_iff.1 h
  exact ⟨node, hnode, List.mem_of_find?_eq_some hfind⟩

theorem Holds.node?_eq (h : tree.Holds parent globals id command) :
    tree.node? id = (layOut command parent globals id).head? := by
  obtain ⟨behind, hbehind⟩ := h
  rw [node?, ← List.head?_drop, ← hbehind, layOut_eq]
  rfl

/-- What is below a command stands behind it. -/
theorem Holds.below (h : tree.Holds parent globals id command) :
    (layOutAll command.subcommands id (Scope.ofSpec globals command.spec).globals (id + 1)).2
      <+: tree.nodes.drop (id + 1) := by
  obtain ⟨behind, hbehind⟩ := h
  rw [layOut_eq, List.cons_append] at hbehind
  have hbelow := congrArg List.tail hbehind
  rw [List.tail_cons, List.tail_drop] at hbelow
  exact ⟨behind, hbelow⟩

theorem Holds.hasChild_iff (h : tree.Holds parent globals id command) :
    tree.HasChild id child ↔ child ∈ (layOutAll command.subcommands id
      (Scope.ofSpec globals command.spec).globals (id + 1)).1 := by
  unfold HasChild
  rw [h.node?_eq, layOut_eq, List.head?_cons]
  constructor
  · rintro ⟨node, hnode, hchild⟩
    cases hnode
    exact hchild
  · exact fun hchild => ⟨_, rfl, hchild⟩

/-- Children are numbered behind their parent. -/
theorem Holds.lt_child (h : tree.Holds parent globals id command)
    (hchild : tree.HasChild id child) : id < child :=
  le_of_mem_layOutAll (h.hasChild_iff.1 hchild)

/-! ## Every place -/

/-- A command stands at a place of the table, among the children of the command above it. -/
inductive Placed (tree : CommandTree) (outermost : Command) : NodeId → Lineage → Prop where
  | root (h : tree.Holds none [] root outermost) : Placed tree outermost root ⟨outermost, []⟩
  | child {id child : NodeId} {lineage : Lineage} {sub : Command}
    (habove : Placed tree outermost id lineage) (hsub : sub ∈ lineage.command.subcommands)
    (hchild : tree.HasChild id child)
    (h : tree.Holds (some id) (Scope.handedDown (lineage.command :: lineage.above)) child sub) :
    Placed tree outermost child (lineage.child sub)

/-- The place holds the command with the options that are handed down to it. -/
theorem Placed.holds (h : tree.Placed outermost id lineage) :
    ∃ parent, tree.Holds parent (Scope.handedDown lineage.above) id lineage.command := by
  cases h with
  | root h => exact ⟨none, h⟩
  | child _ _ _ h => exact ⟨some _, h⟩

mutual

/-- The commands below a command stand behind it in preorder. -/
theorem Placed.lineages {id place : NodeId} {above : List Command} {lineage : Lineage}
    (command : Command) (h : tree.Placed outermost id ⟨command, above⟩)
    (hlineage : (command.lineagesBelow above)[place]? = some lineage) :
    tree.Placed outermost (id + place) lineage := by
  match command, place with
  | ⟨spec, subcommands⟩, 0 =>
    rw [Command.lineagesBelow_eq, List.getElem?_cons_zero] at hlineage
    cases hlineage
    exact h
  | ⟨spec, subcommands⟩, place + 1 =>
    rw [Command.lineagesBelow_eq, List.getElem?_cons_succ] at hlineage
    obtain ⟨parent, hholds⟩ := h.holds
    have hinside := placed_of_lineagesBelowAll subcommands h (fun sub hsub => hsub) hholds.below
      (fun child hchild => hholds.hasChild_iff.2 hchild) hlineage
    rw [Nat.add_right_comm, Nat.add_assoc] at hinside
    exact hinside

/-- The same for commands that are laid out one after the other as children of a node. -/
theorem placed_of_lineagesBelowAll {id next place : NodeId} {upper lineage : Lineage}
    (commands : List Command) (hupper : tree.Placed outermost id upper)
    (hsubs : ∀ sub ∈ commands, sub ∈ upper.command.subcommands)
    (h : (layOutAll commands id (Scope.handedDown (upper.command :: upper.above)) next).2
      <+: tree.nodes.drop next)
    (hchildren : ∀ child ∈ (layOutAll commands id
      (Scope.handedDown (upper.command :: upper.above)) next).1, tree.HasChild id child)
    (hlineage : (Command.lineagesBelowAll (upper.command :: upper.above) commands)[place]?
      = some lineage) : tree.Placed outermost (next + place) lineage := by
  match commands with
  | [] =>
    rw [Command.lineagesBelowAll, List.getElem?_nil] at hlineage
    cases hlineage
  | command :: rest =>
    rw [layOutAll] at h hchildren
    rw [Command.lineagesBelowAll] at hlineage
    obtain ⟨behind, hbehind⟩ := h
    rw [List.append_assoc] at hbehind
    have hfirst : tree.Placed outermost next (upper.child command) :=
      .child hupper (hsubs command List.mem_cons_self) (hchildren _ List.mem_cons_self)
        ⟨_, hbehind⟩
    have hcount := Command.length_lineagesBelow (upper.command :: upper.above) command
    by_cases hplace : place < command.preorder.length
    · rw [List.getElem?_append_left (hcount ▸ hplace)] at hlineage
      exact hfirst.lineages command hlineage
    · -- the place belongs to one of the others, which stand behind everything of the first
      rw [List.getElem?_append_right (hcount ▸ Nat.not_lt.1 hplace), hcount] at hlineage
      have hlength := length_layOut command (some id)
        (Scope.handedDown (upper.command :: upper.above)) next
      rw [hlength] at hchildren hbehind
      have hrest : (layOutAll rest id (Scope.handedDown (upper.command :: upper.above))
          (next + command.preorder.length)).2
          <+: tree.nodes.drop (next + command.preorder.length) := by
        refine ⟨behind, ?_⟩
        rw [← List.drop_drop, ← hbehind, ← hlength, List.drop_left]
      have hinside := placed_of_lineagesBelowAll rest hupper
        (fun sub hsub => hsubs sub (List.mem_cons_of_mem _ hsub)) hrest
        (fun child hchild => hchildren child (List.mem_cons_of_mem _ hchild)) hlineage
      rw [Nat.add_assoc, Nat.add_sub_cancel' (Nat.not_lt.1 hplace)] at hinside
      exact hinside

end

theorem length_ofCommand (command : Command) :
    (ofCommand command).nodes.length = command.preorder.length :=
  length_layOut command none [] root

/-- Every command stands at its place in preorder. -/
theorem placed_of_lineages (h : outermost.lineages[id]? = some lineage) :
    (ofCommand outermost).Placed outermost id lineage := by
  have hplaced := (Placed.root (holds_root outermost)).lineages outermost h
  rw [root, Nat.zero_add] at hplaced
  exact hplaced

/-- Every place of the table holds a command. -/
theorem exists_lineage (h : id < (ofCommand outermost).nodes.length) :
    ∃ lineage, outermost.lineages[id]? = some lineage := by
  rw [length_ofCommand, ← Command.map_command_lineages, List.length_map] at h
  exact ⟨_, List.getElem?_eq_getElem h⟩

end CommandTree

end CommandTelemetry
