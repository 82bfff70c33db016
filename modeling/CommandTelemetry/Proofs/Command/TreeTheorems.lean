import CommandTelemetry.Command.Tree
import Mathlib.Data.List.Find
import Mathlib.Data.List.Forall2

/-!
# The tree is its command definition

The table of a tree holds every command of the definition, each with its own scope, and the children
of a node are the subcommands of its command in the order of declaration.

* `CommandTree.Holds` says that a command is laid out at a place of the table, and
  `CommandTree.Holds.node` what stands there;
* `CommandTree.Holds.child?` says that going down by a word is the same in the table and in the
  definition;
* `Scope.mem_flags_ofSpec` and `Scope.mem_globals_ofSpec` say which options a node has.
-/

namespace CommandTelemetry

namespace CommandTree

variable {tree : CommandTree} {parent : Option NodeId} {globals : List FlagSpec}
  {command : Command} {id : NodeId}

/-- A command below a parent and its global options is laid out from a place on. -/
def Holds (tree : CommandTree) (parent : Option NodeId) (globals : List FlagSpec) (id : NodeId)
    (command : Command) : Prop :=
  layOut command parent globals id <+: tree.nodes.drop id

/-- What stands in the table for a command. -/
structure NodeOf (tree : CommandTree) (parent : Option NodeId) (globals : List FlagSpec)
    (id : NodeId) (command : Command) (node : CommandNode) : Prop where
  name : node.name = command.spec.name
  aliases : node.aliases = command.spec.aliases
  parent : node.parent = parent
  flags : node.flags = (Scope.ofSpec globals command.spec).flags
  positionals : node.positionals = (Scope.ofSpec globals command.spec).positionals
  children : List.Forall₂ (tree.Holds (some id) (Scope.ofSpec globals command.spec).globals)
    node.children command.subcommands

theorem layOut_eq (command : Command) (parent : Option NodeId) (globals : List FlagSpec)
    (next : NodeId) : layOut command parent globals next
      = { name := command.spec.name
          aliases := command.spec.aliases
          about := command.spec.about.map Text.visible
          parent
          children := (layOutAll command.subcommands next
            (Scope.ofSpec globals command.spec).globals (next + 1)).1
          flags := (Scope.ofSpec globals command.spec).flags
          positionals := (Scope.ofSpec globals command.spec).positionals }
        :: (layOutAll command.subcommands next
            (Scope.ofSpec globals command.spec).globals (next + 1)).2 := by
  cases command with
  | mk spec subcommands => rw [layOut]

theorem holds_root (command : Command) : (ofCommand command).Holds none [] root command :=
  List.prefix_refl _

/-- What is laid out one after the other is held one by one. -/
theorem holds_of_layOutAll {commands : List Command} {above next : NodeId}
    (h : (layOutAll commands above globals next).2 <+: tree.nodes.drop next) :
    List.Forall₂ (tree.Holds (some above) globals) (layOutAll commands above globals next).1
      commands := by
  induction commands generalizing next with
  | nil =>
    rw [layOutAll]
    exact List.Forall₂.nil
  | cons command rest ih =>
    rw [layOutAll] at h ⊢
    obtain ⟨behind, hbehind⟩ := h
    rw [List.append_assoc] at hbehind
    refine List.Forall₂.cons ⟨_, hbehind⟩ (ih ⟨behind, ?_⟩)
    -- the others stand behind everything of the first command
    rw [← List.drop_drop, ← hbehind, List.drop_left]

theorem Holds.node (h : tree.Holds parent globals id command) :
    ∃ node, tree.node? id = some node ∧ tree.NodeOf parent globals id command node := by
  obtain ⟨behind, hbehind⟩ := h
  rw [layOut_eq, List.cons_append] at hbehind
  have hnode := congrArg List.head? hbehind
  rw [List.head?_drop, List.head?_cons] at hnode
  have hbelow := congrArg List.tail hbehind
  rw [List.tail_drop, List.tail_cons] at hbelow
  exact ⟨_, hnode.symm, rfl, rfl, rfl, rfl, rfl, holds_of_layOutAll ⟨behind, hbelow⟩⟩

/-- A node answers to the words that its command answers to. -/
theorem Holds.answers (h : tree.Holds parent globals id command) (word : String) :
    tree.answers word id = command.spec.answersTo word := by
  obtain ⟨node, hnode, hof⟩ := h.node
  rw [CommandTree.answers, hnode, Option.any_some, CommandNode.answersTo,
    CommandSpec.answersTo, hof.name, hof.aliases]

theorem find?_of_forall₂ {α β : Type} {r : α → β → Prop} {p : α → Bool} {q : β → Bool}
    {xs : List α} {ys : List β} (h : List.Forall₂ r xs ys) (hpq : ∀ x y, r x y → p x = q y) :
    Option.Rel r (xs.find? p) (ys.find? q) := by
  induction h with
  | nil => exact Option.Rel.none
  | @cons x y xs ys hxy _ ih =>
    rw [List.find?_cons, List.find?_cons, hpq x y hxy]
    cases q y with
    | true => exact Option.Rel.some hxy
    | false => exact ih

/-- The first child that is called by a word is that of the first subcommand called by it. -/
theorem Holds.child? (h : tree.Holds parent globals id command) (word : String) :
    Option.Rel (tree.Holds (some id) (Scope.ofSpec globals command.spec).globals)
      (tree.child? id word) (command.subcommand? word) := by
  obtain ⟨node, hnode, hof⟩ := h.node
  rw [CommandTree.child?, hnode, Option.bind_some]
  exact find?_of_forall₂ hof.children fun child sub hchild => hchild.answers word

theorem Holds.child?_of_some (h : tree.Holds parent globals id command) {word : String}
    {sub : Command} (hsub : command.subcommand? word = some sub) :
    ∃ child, tree.child? id word = some child
      ∧ tree.Holds (some id) (Scope.ofSpec globals command.spec).globals child sub := by
  have hrel := h.child? word
  rw [hsub] at hrel
  cases hchild : tree.child? id word with
  | none =>
    rw [hchild] at hrel
    cases hrel
  | some child =>
    rw [hchild] at hrel
    cases hrel with
    | some hholds => exact ⟨child, rfl, hholds⟩

theorem Holds.child?_of_none (h : tree.Holds parent globals id command) {word : String}
    (hsub : command.subcommand? word = none) : tree.child? id word = none := by
  have hrel := h.child? word
  rw [hsub] at hrel
  cases hchild : tree.child? id word with
  | none => rfl
  | some child =>
    rw [hchild] at hrel
    cases hrel

/-- Words that no subcommand tells apart lead to the same child. -/
theorem Holds.child?_congr (h : tree.Holds parent globals id command) {word other : String}
    (hsame : ∀ sub ∈ command.subcommands, sub.spec.answersTo word = sub.spec.answersTo other) :
    tree.child? id word = tree.child? id other := by
  obtain ⟨node, hnode, hof⟩ := h.node
  rw [CommandTree.child?, CommandTree.child?, hnode, Option.bind_some, Option.bind_some]
  refine List.find?_congr fun child hchild => ?_
  obtain ⟨place, hplace, rfl⟩ := List.mem_iff_get.1 hchild
  have hlength := hof.children.length_eq
  have hholds := hof.children.get place.isLt (hlength ▸ place.isLt)
  rw [hholds.answers, hholds.answers, hsame _ (List.get_mem _ _)]

end CommandTree

/-! ## The options of a node -/

namespace Scope

variable {globals : List FlagSpec} {spec : CommandSpec} {flag : FlagSpec}

/-- The declarations that the tree keeps as options. -/
def isFlag (arg : Arg) : Bool := !arg.action.any Action.shows && !arg.isPositional

theorem declare_of_isFlag {scope : Scope} {arg : Arg} (h : isFlag arg = true) :
    scope.declare arg = { scope with
      flags := putFlag scope.flags (FlagSpec.ofArg arg)
      globals := if arg.isGlobal then putFlag scope.globals (FlagSpec.ofArg arg)
        else scope.globals } := by
  rw [isFlag, Bool.and_eq_true, Bool.not_eq_true', Bool.not_eq_true'] at h
  rw [declare, if_neg (by rw [h.1]; exact Bool.false_ne_true),
    if_neg (by rw [h.2]; exact Bool.false_ne_true)]

theorem declare_of_not_isFlag {scope : Scope} {arg : Arg} (h : isFlag arg = false) :
    (scope.declare arg).flags = scope.flags ∧ (scope.declare arg).globals = scope.globals := by
  unfold declare
  split
  · exact ⟨rfl, rfl⟩
  · next hshows =>
    split
    · exact ⟨rfl, rfl⟩
    · next hpositional => simp [isFlag, hshows, hpositional] at h

/-- The options of a scope are put one after the other behind those that are handed down. -/
theorem flags_foldl_declare (args : List Arg) (scope : Scope) :
    (args.foldl declare scope).flags
      = ((args.filter isFlag).map FlagSpec.ofArg).foldl putFlag scope.flags := by
  induction args generalizing scope with
  | nil => rfl
  | cons arg rest ih =>
    rw [List.foldl_cons, ih]
    cases hflag : isFlag arg with
    | false => rw [(declare_of_not_isFlag hflag).1, List.filter_cons_of_neg (by simp [hflag])]
    | true =>
      rw [declare_of_isFlag hflag, List.filter_cons_of_pos hflag, List.map_cons, List.foldl_cons]

/-- The same for the options that are handed on. -/
theorem globals_foldl_declare (args : List Arg) (scope : Scope) :
    (args.foldl declare scope).globals
      = ((args.filter fun arg => isFlag arg && arg.isGlobal).map FlagSpec.ofArg).foldl putFlag
          scope.globals := by
  induction args generalizing scope with
  | nil => rfl
  | cons arg rest ih =>
    rw [List.foldl_cons, ih]
    cases hflag : isFlag arg with
    | false => rw [(declare_of_not_isFlag hflag).2, List.filter_cons_of_neg (by simp [hflag])]
    | true =>
      rw [declare_of_isFlag hflag]
      cases hglobal : arg.isGlobal with
      | false => rw [List.filter_cons_of_neg (by simp [hglobal]), if_neg Bool.false_ne_true]
      | true =>
        rw [List.filter_cons_of_pos (by simp [hflag, hglobal]), List.map_cons, List.foldl_cons,
          if_pos rfl]

/-- Options with new ids do not take the place of others. -/
theorem foldl_putFlag_of_new (flags new : List FlagSpec) (hids : (new.map (·.id)).Nodup)
    (hnew : ∀ old ∈ flags, ∀ flag ∈ new, old.id ≠ flag.id) :
    new.foldl putFlag flags = flags ++ new := by
  induction new generalizing flags with
  | nil => rw [List.foldl_nil, List.append_nil]
  | cons first rest ih =>
    rw [List.map_cons, List.nodup_cons] at hids
    have hkeep : flags.filter (·.id ≠ first.id) = flags :=
      List.filter_eq_self.2 fun old hold => decide_eq_true (hnew old hold first List.mem_cons_self)
    rw [List.foldl_cons, putFlag, hkeep, ih _ hids.2, List.append_assoc, List.singleton_append]
    intro old hold flag hflag
    rcases List.mem_append.1 hold with hold | hold
    · exact hnew old hold flag (List.mem_cons_of_mem _ hflag)
    · rw [List.mem_singleton.1 hold]
      exact fun heq => hids.1 (List.mem_map.2 ⟨flag, hflag, heq.symm⟩)

/-- Declarations with new ids are put behind the options that are handed down. -/
theorem foldl_putFlag_ofArg (hids : (spec.args.map (·.id)).Nodup)
    (hnew : ∀ old ∈ globals, ∀ arg ∈ spec.args, old.id ≠ arg.id) (p : Arg → Bool) :
    ((spec.args.filter p).map FlagSpec.ofArg).foldl putFlag globals
      = globals ++ (spec.args.filter p).map FlagSpec.ofArg := by
  apply foldl_putFlag_of_new
  · have hsame : ((spec.args.filter p).map FlagSpec.ofArg).map (·.id)
        = (spec.args.filter p).map (·.id) := by
      rw [List.map_map]
      rfl
    rw [hsame]
    exact hids.sublist (List.filter_sublist.map _)
  · intro old hold flag hflag
    obtain ⟨arg, harg, rfl⟩ := List.mem_map.1 hflag
    exact hnew old hold arg (List.mem_of_mem_filter harg)

/-- The options of a command are those handed down to it and its own. -/
theorem mem_flags_ofSpec (hids : (spec.args.map (·.id)).Nodup)
    (hnew : ∀ old ∈ globals, ∀ arg ∈ spec.args, old.id ≠ arg.id) :
    flag ∈ (ofSpec globals spec).flags
      ↔ flag ∈ globals ∨ ∃ arg ∈ spec.args, isFlag arg = true ∧ FlagSpec.ofArg arg = flag := by
  rw [ofSpec, flags_foldl_declare]
  show flag ∈ List.foldl putFlag globals _ ↔ _
  rw [foldl_putFlag_ofArg hids hnew]
  simp only [List.mem_append, List.mem_map, List.mem_filter, and_assoc]

/-- What a command hands down are the options handed down to it and its own global ones. -/
theorem mem_globals_ofSpec (hids : (spec.args.map (·.id)).Nodup)
    (hnew : ∀ old ∈ globals, ∀ arg ∈ spec.args, old.id ≠ arg.id) :
    flag ∈ (ofSpec globals spec).globals
      ↔ flag ∈ globals ∨ ∃ arg ∈ spec.args, isFlag arg = true ∧ arg.isGlobal = true
          ∧ FlagSpec.ofArg arg = flag := by
  rw [ofSpec, globals_foldl_declare]
  show flag ∈ List.foldl putFlag globals _ ↔ _
  rw [foldl_putFlag_ofArg hids hnew]
  simp only [List.mem_append, List.mem_map, List.mem_filter, Bool.and_eq_true, and_assoc]

end Scope

end CommandTelemetry
