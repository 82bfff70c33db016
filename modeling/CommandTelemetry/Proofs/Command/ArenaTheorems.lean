import CommandTelemetry.Proofs.Command.PlaceTheorems
import CommandTelemetry.Proofs.Invocation.WalkTheorems
import Mathlib.Data.List.Nodup
import Mathlib.Logic.Relation

/-!
# The table is the command hierarchy

* `CommandTree.Holds.outline?` says that a place unfolds to the outline of its command;
* `CommandTree.isArenaOf_ofCommand` collects what holds of the whole table: its size, its numbers,
  its lists of children and the ways up and down.
-/

namespace CommandTelemetry

/-! ## Commands one after the other -/

theorem Command.outline_eq (command : Command) : command.outline =
    { name := command.spec.name, aliases := command.spec.aliases
      about := command.spec.about.map Text.visible, positionals := command.spec.wordIds
      subcommands := outlineAll command.subcommands } := by
  cases command with
  | mk spec subcommands => rw [outline]

/-- One more declaration adds its id if it is a positional that shows no page. -/
theorem Scope.positionals_foldl_declare (args : List Arg) (scope : Scope) :
    (args.foldl declare scope).positionals = scope.positionals
      ++ ((args.filter (·.isPositional)).filter fun arg => !arg.action.any Action.shows).map
        (·.id) := by
  induction args generalizing scope with
  | nil => exact (List.append_nil _).symm
  | cons arg rest ih =>
    rw [List.foldl_cons, ih, declare]
    cases hshows : arg.action.any Action.shows with
    | true => cases hpositional : arg.isPositional <;> simp [hshows, hpositional]
    | false => cases hpositional : arg.isPositional <;> simp [hshows, hpositional]

theorem Scope.positionals_ofSpec (globals : List FlagSpec) (spec : CommandSpec) :
    (ofSpec globals spec).positionals = spec.wordIds :=
  (positionals_foldl_declare spec.args (inheriting globals)).trans (List.nil_append _)

namespace CommandTree

variable {tree : CommandTree} {parent : Option NodeId} {globals : List FlagSpec}
  {command : Command} {commands : List Command} {id above next child : NodeId}

/-! ## Unfolding -/

theorem outline?_eq (tree : CommandTree) (id : NodeId) :
    tree.outline? id = (tree.node? id).bind fun node =>
      (node.children.mapM fun child => if id < child then tree.outline? child else none).map
        fun subcommands =>
          { name := node.name, aliases := node.aliases, about := node.about
            positionals := node.positionals, subcommands } := by
  rw [outline?]
  split
  · next hnode =>
    rw [hnode]
    rfl
  · next node hnode =>
    rw [hnode, Option.bind_some, Option.map_eq_bind]
    rfl

mutual

/-- A place unfolds to the outline of the command that is laid out there. -/
theorem Holds.outline? {parent : Option NodeId} {globals : List FlagSpec} {id : NodeId}
    (command : Command) (h : tree.Holds parent globals id command) :
    tree.outline? id = some command.outline := by
  match command with
  | ⟨spec, subcommands⟩ =>
    have hbelow := mapM_outline? subcommands (holds_of_layOutAll h.below) fun child hchild =>
      h.lt_child (h.hasChild_iff.2 hchild)
    rw [outline?_eq, h.node?_eq, layOut_eq, List.head?_cons, Option.bind_some, hbelow,
      Command.outline_eq, Scope.positionals_ofSpec]
    rfl

/-- The same for the children of a node. -/
theorem mapM_outline? {globals : List FlagSpec} {above : NodeId} {children : List NodeId}
    (commands : List Command)
    (h : List.Forall₂ (tree.Holds (some above) globals) children commands)
    (hdown : ∀ child ∈ children, above < child) :
    (children.mapM fun child => if above < child then tree.outline? child else none)
      = some (Command.outlineAll commands) := by
  match commands, children, h with
  | [], [], .nil => rfl
  | command :: rest, child :: children, .cons hchild hchildren =>
    have hrest := mapM_outline? rest hchildren fun other hother =>
      hdown other (List.mem_cons_of_mem _ hother)
    rw [List.mapM_cons, if_pos (hdown child List.mem_cons_self), hchild.outline? command, hrest,
      Command.outlineAll]
    rfl

end

/-! ## The whole table -/

/-- A table is the arena of a command hierarchy. -/
structure IsArenaOf (tree : CommandTree) (command : Command) : Prop where
  /-- There are as many nodes as commands. -/
  size : tree.nodes.length = command.preorder.length
  /-- Nodes are numbered in preorder, and each unfolds to the outline of its command. -/
  unfolds : ∀ id, tree.outline? id = command.preorder[id]?.map Command.outline
  /-- A text without control characters, spacing apart, is kept as it was declared. -/
  about : ∀ id node sub text, tree.node? id = some node → command.preorder[id]? = some sub →
    sub.spec.about = some text →
    (∀ c ∈ text.toList,
      c ∈ ['\t', '\n', '\x0c', '\r'] ∨ 0x20 ≤ c.toNat ∧ c.toNat ≠ 0x7F) →
    node.about = some text
  /-- The root is the only node without a parent. -/
  parentless : ∀ id node, tree.node? id = some node → (node.parent = none ↔ id = root)
  /-- The parent of a node is the one node that has it among its children. -/
  parent : ∀ id node above, tree.node? id = some node →
    (node.parent = some above ↔ tree.HasChild above id)
  /-- Every other node occurs once among all lists of children. -/
  once : ∀ id, id ≠ root → id < tree.nodes.length →
    (tree.nodes.flatMap (·.children)).count id = 1
  increasing : ∀ node ∈ tree.nodes, node.children.Pairwise (· < ·)
  /-- Children are nodes behind their parent. -/
  inRange : ∀ above child, tree.HasChild above child → above < child ∧ child < tree.nodes.length
  /-- The nodes are what the ways down from the root reach. -/
  reached : ∀ id, id < tree.nodes.length ↔ Relation.ReflTransGen tree.HasChild root id
  /-- The way up takes one segment from each node below the root. -/
  segments : ∀ id node, tree.node? id = some node →
    tree.segments id = node.parent.elim [] fun above => tree.segments above ++ [node.name]
  /-- Every step down leads to a child, and every way of such steps ends at a node. -/
  child : ∀ id word child, tree.child? id word = some child → tree.HasChild id child
  lookup : ∀ words id, tree.lookup words = some id → id < tree.nodes.length
  find : ∀ arguments, tree.find arguments < tree.nodes.length
  resolve : ∀ parsed, (tree.resolve parsed).1 < tree.nodes.length

theorem lt_of_node? {node : CommandNode} (h : tree.node? id = some node) :
    id < tree.nodes.length :=
  (List.getElem?_eq_some_iff.1 h).1

/-- Every place of a table holds a command, the root alone one without a parent. -/
theorem exists_holds (h : id < (ofCommand command).nodes.length) :
    ∃ sub parent globals, command.preorder[id]? = some sub
      ∧ (ofCommand command).Holds parent globals id sub
      ∧ (id = root ∧ parent = none
        ∨ ∃ above, parent = some above ∧ above < id ∧ (ofCommand command).HasChild above id) := by
  obtain ⟨lineage, hlineage⟩ := exists_lineage h
  have hsub : command.preorder[id]? = some lineage.command := by
    rw [← Command.map_command_lineages, List.getElem?_map, hlineage, Option.map_some]
  cases placed_of_lineages hlineage with
  | root hholds => exact ⟨command, none, [], hsub, hholds, .inl ⟨rfl, rfl⟩⟩
  | @child above _ upper sub habove _ hchild hholds =>
    obtain ⟨parent, habove⟩ := habove.holds
    exact ⟨sub, some above, _, hsub, hholds, .inr ⟨above, rfl, habove.lt_child hchild, hchild⟩⟩

/-- A child stands behind its parent, and knows it. -/
theorem parent_of_hasChild (h : (ofCommand command).HasChild above child) :
    above < child ∧ ∃ node, (ofCommand command).node? child = some node
      ∧ node.parent = some above := by
  obtain ⟨node, hnode, hmem⟩ := h
  obtain ⟨sub, parent, globals, -, hholds, -⟩ := exists_holds (lt_of_node? hnode)
  have hlt := hholds.lt_child ⟨node, hnode, hmem⟩
  have hchildren := hholds.hasChild_iff.1 ⟨node, hnode, hmem⟩
  obtain ⟨place, hplace, rfl⟩ := List.mem_iff_getElem.1 hchildren
  have hall := holds_of_layOutAll hholds.below
  have hchild := hall.get hplace (hall.length_eq ▸ hplace)
  obtain ⟨below, hbelow, hof⟩ := hchild.node
  exact ⟨hlt, below, hbelow, hof.parent⟩

theorem lt_of_hasChild (h : (ofCommand command).HasChild above child) :
    child < (ofCommand command).nodes.length := by
  obtain ⟨-, node, hnode, -⟩ := parent_of_hasChild h
  exact lt_of_node? hnode

theorem parent_eq_some_iff {node : CommandNode} (hnode : (ofCommand command).node? id = some node) :
    node.parent = some above ↔ (ofCommand command).HasChild above id := by
  obtain ⟨sub, parent, globals, -, hholds, hplace⟩ := exists_holds (lt_of_node? hnode)
  obtain ⟨same, hsame, hof⟩ := hholds.node
  rw [hnode] at hsame
  cases hsame
  constructor
  · intro hparent
    rw [hof.parent] at hparent
    rcases hplace with ⟨-, rfl⟩ | ⟨other, rfl, -, hchild⟩
    · cases hparent
    · cases hparent
      exact hchild
  · intro hchild
    obtain ⟨-, same, hsame, hparent⟩ := parent_of_hasChild hchild
    rw [hnode] at hsame
    cases hsame
    exact hparent

theorem parent_eq_none_iff {node : CommandNode} (hnode : (ofCommand command).node? id = some node) :
    node.parent = none ↔ id = root := by
  obtain ⟨sub, parent, globals, -, hholds, hplace⟩ := exists_holds (lt_of_node? hnode)
  obtain ⟨same, hsame, hof⟩ := hholds.node
  rw [hnode] at hsame
  cases hsame
  rw [hof.parent]
  rcases hplace with ⟨rfl, rfl⟩ | ⟨above, rfl, hlt, -⟩
  · exact iff_of_true rfl rfl
  · exact iff_of_false (Option.some_ne_none above) (Nat.ne_zero_of_lt hlt)

theorem increasing_ofCommand (command : Command) :
    ∀ node ∈ (ofCommand command).nodes, node.children.Pairwise (· < ·) := by
  intro node hmem
  obtain ⟨id, hid, rfl⟩ := List.mem_iff_getElem.1 hmem
  obtain ⟨sub, parent, globals, -, hholds, -⟩ := exists_holds hid
  have hnode := hholds.node?_eq
  rw [node?, List.getElem?_eq_getElem hid, layOut_eq, List.head?_cons] at hnode
  rw [Option.some.inj hnode]
  exact pairwise_layOutAll _ _ _ _

/-- All lists of children together hold no number twice. -/
theorem nodup_children (command : Command) :
    ((ofCommand command).nodes.flatMap (·.children)).Nodup := by
  have hincreasing := increasing_ofCommand command
  refine List.nodup_flatMap.2 ⟨fun node hnode => (hincreasing node hnode).imp Nat.ne_of_lt, ?_⟩
  refine List.pairwise_iff_getElem.2 fun first second hfirst hsecond hlt child hchild hother => ?_
  -- a child of two nodes would have two parents
  obtain ⟨-, node, hnode, hparent⟩ :=
    parent_of_hasChild ⟨_, List.getElem?_eq_getElem hfirst, hchild⟩
  obtain ⟨-, same, hsame, hparent'⟩ :=
    parent_of_hasChild ⟨_, List.getElem?_eq_getElem hsecond, hother⟩
  rw [hnode] at hsame
  cases hsame
  rw [hparent] at hparent'
  exact Nat.ne_of_lt hlt (Option.some.inj hparent')

theorem segments_eq {node : CommandNode} (hnode : (ofCommand command).node? id = some node) :
    (ofCommand command).segments id
      = node.parent.elim [] fun above => (ofCommand command).segments above ++ [node.name] := by
  rw [segments, hnode]
  cases hparent : node.parent with
  | none => simp [hparent]
  | some above =>
    have hlt := (parent_of_hasChild ((parent_eq_some_iff hnode).1 hparent)).1
    simp [hparent, hlt]

theorem outline?_ofCommand (command : Command) (id : NodeId) :
    (ofCommand command).outline? id = command.preorder[id]?.map Command.outline := by
  by_cases hid : id < (ofCommand command).nodes.length
  · obtain ⟨sub, parent, globals, hsub, hholds, -⟩ := exists_holds hid
    rw [hholds.outline? sub, hsub, Option.map_some]
  · have hnone := List.getElem?_eq_none (Nat.not_lt.1 hid)
    rw [length_ofCommand] at hid
    rw [outline?_eq, node?, hnone, List.getElem?_eq_none (Nat.not_lt.1 hid), Option.bind_none,
      Option.map_none]

theorem about_of_shown {node : CommandNode} {sub : Command} {text : String}
    (hnode : (ofCommand command).node? id = some node) (hsub : command.preorder[id]? = some sub)
    (habout : sub.spec.about = some text)
    (hshown : ∀ c ∈ text.toList,
      c ∈ ['\t', '\n', '\x0c', '\r'] ∨ 0x20 ≤ c.toNat ∧ c.toNat ≠ 0x7F) :
    node.about = some text := by
  obtain ⟨same, parent, globals, hsame, hholds, -⟩ := exists_holds (lt_of_node? hnode)
  cases hsub.symm.trans hsame
  have heq := hholds.node?_eq
  rw [hnode, layOut_eq, List.head?_cons] at heq
  have hvisible : Text.visible text = text :=
    Text.visible_eq_self fun c hc => Text.Visible.isShown_iff.2 (hshown c hc)
  rw [Option.some.inj heq, habout, Option.map_some, hvisible]

theorem count_children (hroot : id ≠ root) (hid : id < (ofCommand command).nodes.length) :
    ((ofCommand command).nodes.flatMap (·.children)).count id = 1 := by
  refine List.count_eq_one_of_mem (nodup_children command) ?_
  obtain ⟨sub, parent, globals, -, -, ⟨hzero, -⟩ | ⟨above, -, -, node, hnode, hchild⟩⟩ :=
    exists_holds hid
  · exact absurd hzero hroot
  · exact List.mem_flatMap.2 ⟨node, List.mem_of_getElem? hnode, hchild⟩

theorem root_lt (command : Command) : root < (ofCommand command).nodes.length := by
  rw [length_ofCommand, Command.preorder_eq]
  exact Nat.succ_pos _

/-- The way up from a node ends at the root. -/
theorem reached_iff : id < (ofCommand command).nodes.length
    ↔ Relation.ReflTransGen (ofCommand command).HasChild root id := by
  constructor
  · intro hid
    induction id using Nat.strongRecOn with
    | ind id ih =>
      obtain ⟨sub, parent, globals, -, -, ⟨rfl, -⟩ | ⟨above, -, hlt, hchild⟩⟩ := exists_holds hid
      · exact Relation.ReflTransGen.refl
      · exact (ih above hlt (Nat.lt_trans hlt hid)).tail hchild
  · intro hreach
    cases hreach with
    | refl => exact root_lt command
    | tail _ hchild => exact lt_of_hasChild hchild

/-! ## The ways down -/

theorem lookup_lt {words : List String} (hid : id < (ofCommand command).nodes.length)
    (h : words.foldlM (ofCommand command).child? id = some child) :
    child < (ofCommand command).nodes.length := by
  induction words generalizing id with
  | nil =>
    cases h
    exact hid
  | cons word rest ih =>
    rw [List.foldlM_cons] at h
    obtain ⟨next, hnext, hrest⟩ := Option.bind_eq_some_iff.1 h
    exact ih (lt_of_hasChild (hasChild_of_child? hnext)) hrest

theorem walk_lt (arguments : List String) (hid : id < (ofCommand command).nodes.length) :
    (ofCommand command).walk id arguments < (ofCommand command).nodes.length := by
  fun_induction (ofCommand command).walk id arguments with
  | case1 => exact hid
  | case2 => exact hid
  | case3 _ _ _ _ ih => exact ih hid
  | case4 => exact hid
  | case5 _ _ _ _ _ ih => exact ih hid
  | case6 current argument rest child hstride ih =>
    obtain ⟨word, hword⟩ := child?_of_stride hstride
    exact ih (lt_of_hasChild (hasChild_of_child? hword))

/-- The table of a command definition is its hierarchy. -/
theorem isArenaOf_ofCommand (command : Command) : (ofCommand command).IsArenaOf command where
  size := length_ofCommand command
  unfolds := outline?_ofCommand command
  about := fun id node sub text hnode hsub habout hshown =>
    about_of_shown hnode hsub habout hshown
  parentless := fun id node hnode => parent_eq_none_iff hnode
  parent := fun id node above hnode => parent_eq_some_iff hnode
  once := fun id hroot hid => count_children hroot hid
  increasing := increasing_ofCommand command
  inRange := fun above child h => ⟨(parent_of_hasChild h).1, lt_of_hasChild h⟩
  reached := fun id => reached_iff
  segments := fun id node hnode => segments_eq hnode
  child := fun id word child h => hasChild_of_child? h
  lookup := fun words id h => lookup_lt (root_lt command) h
  find := fun arguments => walk_lt arguments (root_lt command)
  resolve := fun parsed => by
    obtain ⟨node, hnode⟩ := node?_resolve command parsed
    exact lt_of_node? hnode

/-- Of a text that hides a title the table keeps what is shown, and of positionals it keeps none
that asks for a page: it does not hold all that is declared. -/
theorem outline?_ne_declared :
    let spec : CommandSpec :=
      { name := "app", about := some "\x1b]0;t\x07after"
        args := [{ id := "page", action := some .help }] }
    ((ofCommand (.leaf spec)).outline? root).map (fun outline =>
        (outline.about, outline.positionals))
      ≠ some (spec.about, spec.positionals.map (·.id)) := by
  intro spec
  rw [outline?_ofCommand]
  decide +kernel

end CommandTree

end CommandTelemetry
