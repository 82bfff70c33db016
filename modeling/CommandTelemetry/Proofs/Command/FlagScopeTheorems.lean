import CommandTelemetry.Proofs.Command.PlaceTheorems
import Mathlib.Data.List.Induction
import Mathlib.Data.List.Nodup

/-!
# The scope of an option

A command has its own options and the global ones of the commands above it. An id means the option
that the command declares last under it, and otherwise the global option of the nearest command
above that declares one.

* `find?_foldl_putFlag` and `foldl_putFlag_eq` say what a list of options becomes when more are put
  into it;
* `Scope.find?_handedDown` says which global option arrives from above, by induction on the commands
  above;
* `CommandTree.flag?_in_scope` says what every node of a tree has.
-/

namespace CommandTelemetry

/-! ## Putting options one after the other -/

/-- What is put is found under its id, and everything else as before. -/
theorem find?_putFlag (flags : List FlagSpec) (spec : FlagSpec) (id : String) :
    (putFlag flags spec).find? (·.id = id)
      = if spec.id = id then some spec else flags.find? (·.id = id) := by
  have hkept : (flags.filter (·.id ≠ spec.id)).find? (·.id = id)
      = if spec.id = id then none else flags.find? (·.id = id) := by
    rw [List.find?_filter]
    split
    · next hsame => simp [hsame]
    · next hne =>
      refine List.find?_congr fun flag _ => ?_
      by_cases hflag : flag.id = id
      · simp [hflag, Ne.symm hne]
      · simp [hflag]
  rw [putFlag, List.find?_append, hkept, List.find?_singleton]
  by_cases hsame : spec.id = id
  · simp [hsame]
  · simp [hsame]

/-- Of the options that are put, the last one of an id is found. -/
theorem find?_foldl_putFlag (new flags : List FlagSpec) (id : String) :
    (new.foldl putFlag flags).find? (·.id = id)
      = (new.reverse.find? (·.id = id)).or (flags.find? (·.id = id)) := by
  induction new using List.reverseRecOn with
  | nil => rfl
  | append_singleton rest last ih =>
    rw [List.foldl_append, List.foldl_cons, List.foldl_nil, find?_putFlag, ih, List.reverse_append,
      List.reverse_singleton, List.singleton_append, List.find?_cons]
    by_cases hsame : last.id = id
    · simp [hsame]
    · simp [hsame]

/-- The options that were there stand in front, without those whose id was put again. -/
theorem foldl_putFlag_eq (new flags : List FlagSpec) :
    new.foldl putFlag flags
      = flags.filter (fun old => old.id ∉ new.map (·.id)) ++ new.foldl putFlag [] := by
  induction new using List.reverseRecOn with
  | nil => simp
  | append_singleton rest last ih =>
    have hkept : (flags.filter fun old => old.id ∉ rest.map (·.id)).filter (·.id ≠ last.id)
        = flags.filter fun old => old.id ∉ (rest ++ [last]).map (·.id) := by
      rw [List.filter_filter]
      refine List.filter_congr fun old _ => ?_
      rw [← Bool.decide_and, decide_eq_decide, List.map_append, List.mem_append, not_or,
        List.map_singleton, List.mem_singleton]
      exact and_comm
    simp only [List.foldl_append, List.foldl_cons, List.foldl_nil]
    rw [ih, putFlag, List.filter_append, hkept, List.append_assoc, ← putFlag]

/-- No id stands twice among options that are put one after the other. -/
theorem nodup_foldl_putFlag (new : List FlagSpec) {flags : List FlagSpec}
    (h : (flags.map (·.id)).Nodup) : ((new.foldl putFlag flags).map (·.id)).Nodup := by
  induction new generalizing flags with
  | nil => exact h
  | cons first rest ih =>
    apply ih
    have hkept : ((flags.filter (·.id ≠ first.id)).map (·.id)).Nodup :=
      h.sublist (List.filter_sublist.map _)
    rw [putFlag, List.map_append, List.nodup_append]
    refine ⟨hkept, List.nodup_singleton _, ?_⟩
    intro id hid other hother
    obtain ⟨flag, hflag, rfl⟩ := List.mem_map.1 hid
    have hne : flag.id ≠ first.id := by simpa using List.of_mem_filter hflag
    rw [List.map_singleton, List.mem_singleton] at hother
    exact hother ▸ hne

/-! ## What a command declares -/

namespace CommandSpec

/-- The declared options, those that show a page left out. -/
def options (spec : CommandSpec) : List Arg := spec.args.filter Scope.isFlag

/-- The option of that id, the last one if there are several. -/
def option? (spec : CommandSpec) (id : String) : Option Arg :=
  spec.options.reverse.find? (·.id = id)

/-- The global option of that id, the last one if there are several. -/
def globalOption? (spec : CommandSpec) (id : String) : Option Arg :=
  (spec.options.filter (·.isGlobal)).reverse.find? (·.id = id)

end CommandSpec

namespace Scope

variable {globals : List FlagSpec} {spec : CommandSpec} {flag : FlagSpec}

theorem flags_ofSpec (globals : List FlagSpec) (spec : CommandSpec) :
    (ofSpec globals spec).flags = (spec.options.map FlagSpec.ofArg).foldl putFlag globals :=
  flags_foldl_declare spec.args (inheriting globals)

theorem globals_ofSpec (globals : List FlagSpec) (spec : CommandSpec) :
    (ofSpec globals spec).globals
      = ((spec.options.filter (·.isGlobal)).map FlagSpec.ofArg).foldl putFlag globals := by
  have hsame : spec.options.filter (·.isGlobal)
      = spec.args.filter fun arg => isFlag arg && arg.isGlobal := by
    rw [CommandSpec.options, List.filter_filter]
    exact List.filter_congr fun arg _ => Bool.and_comm _ _
  rw [hsame]
  exact globals_foldl_declare spec.args (inheriting globals)

/-- An option of the tree is found under the id that it is declared with. -/
theorem find?_map_ofArg (args : List Arg) (id : String) :
    (args.map FlagSpec.ofArg).reverse.find? (·.id = id)
      = (args.reverse.find? (·.id = id)).map FlagSpec.ofArg := by
  rw [← List.map_reverse, List.find?_map]
  rfl

/-- An id means an own option before it means one from above. -/
theorem find?_flags_ofSpec (globals : List FlagSpec) (spec : CommandSpec) (id : String) :
    (ofSpec globals spec).flags.find? (·.id = id)
      = ((spec.option? id).map FlagSpec.ofArg).or (globals.find? (·.id = id)) := by
  rw [flags_ofSpec, find?_foldl_putFlag, find?_map_ofArg]
  rfl

/-- What goes on to the subcommands is an own global option before it is one from above. -/
theorem find?_globals_ofSpec (globals : List FlagSpec) (spec : CommandSpec) (id : String) :
    (ofSpec globals spec).globals.find? (·.id = id)
      = ((spec.globalOption? id).map FlagSpec.ofArg).or (globals.find? (·.id = id)) := by
  rw [globals_ofSpec, find?_foldl_putFlag, find?_map_ofArg]
  rfl

/-- From above arrives the global option of the nearest command that declares one. -/
theorem find?_handedDown (above : List Command) (id : String) :
    (handedDown above).find? (·.id = id)
      = (above.findSome? (·.spec.globalOption? id)).map FlagSpec.ofArg := by
  induction above with
  | nil => rfl
  | cons command above ih =>
    rw [handedDown, find?_globals_ofSpec, ih, List.findSome?_cons]
    cases command.spec.globalOption? id with
    | none => rfl
    | some arg => rfl

theorem nodup_handedDown (above : List Command) : ((handedDown above).map (·.id)).Nodup := by
  induction above with
  | nil => exact List.nodup_nil
  | cons command above ih =>
    rw [handedDown, globals_ofSpec]
    exact nodup_foldl_putFlag _ ih

theorem option?_isSome_iff {id : String} :
    (spec.option? id).isSome = true ↔ id ∈ (spec.options.map FlagSpec.ofArg).map (·.id) := by
  rw [CommandSpec.option?, List.find?_isSome, List.map_map, List.mem_map]
  constructor
  · rintro ⟨arg, harg, hid⟩
    exact ⟨arg, List.mem_reverse.1 harg, of_decide_eq_true hid⟩
  · rintro ⟨arg, harg, hid⟩
    exact ⟨arg, List.mem_reverse.2 harg, decide_eq_true hid⟩

/-- The options of a command are those from above that it does not declare again, and behind them
its own. -/
theorem exists_flags_eq (globals : List FlagSpec) (spec : CommandSpec) :
    ∃ inherited own, (ofSpec globals spec).flags = inherited ++ own
      ∧ (∀ flag ∈ inherited, spec.option? flag.id = none)
      ∧ ∀ id, own.find? (·.id = id) = (spec.option? id).map FlagSpec.ofArg := by
  refine ⟨_, _, (flags_ofSpec globals spec).trans (foldl_putFlag_eq _ _), ?_, ?_⟩
  · intro flag hflag
    have hnew : flag.id ∉ (spec.options.map FlagSpec.ofArg).map (·.id) := by
      simpa using List.of_mem_filter hflag
    rw [← Option.not_isSome_iff_eq_none, option?_isSome_iff]
    exact hnew
  · intro id
    rw [find?_foldl_putFlag, List.find?_nil, Option.or_none, find?_map_ofArg]
    rfl

end Scope

/-! ## The nodes of a tree -/

/-- An id means at every node the option that its command declares, and otherwise the global option
of the nearest command above that declares one. -/
theorem CommandTree.flag?_in_scope {command : Command} {id : NodeId} {node : CommandNode}
    (hnode : (ofCommand command).node? id = some node) :
    ∃ lineage, command.lineages[id]? = some lineage
      ∧ (node.flags.map (·.id)).Nodup
      ∧ (∀ option, node.flag? option = ((lineage.command.spec.option? option).or
          (lineage.above.findSome? (·.spec.globalOption? option))).map FlagSpec.ofArg)
      ∧ ∃ inherited own, node.flags = inherited ++ own
        ∧ (∀ flag ∈ inherited, lineage.command.spec.option? flag.id = none)
        ∧ ∀ option, own.find? (·.id = option)
          = (lineage.command.spec.option? option).map FlagSpec.ofArg := by
  obtain ⟨lineage, hlineage⟩ := exists_lineage (List.getElem?_eq_some_iff.1 hnode).1
  obtain ⟨parent, hholds⟩ := (placed_of_lineages hlineage).holds
  obtain ⟨same, hsame, hof⟩ := hholds.node
  have heq : same = node := Option.some.inj (hsame.symm.trans hnode)
  subst heq
  refine ⟨lineage, hlineage, ?_, fun option => ?_, ?_⟩
  · rw [hof.flags, Scope.flags_ofSpec]
    exact nodup_foldl_putFlag _ (Scope.nodup_handedDown _)
  · rw [CommandNode.flag?, hof.flags, Scope.find?_flags_ofSpec, Scope.find?_handedDown]
    cases lineage.command.spec.option? option with
    | none => rfl
    | some arg => rfl
  · rw [hof.flags]
    exact Scope.exists_flags_eq _ _

/-- An option that is declared again in between hides the global one there and not below. -/
theorem CommandTree.flag?_in_scope_hidden_between :
    let outer : Arg := { id := "mode", long := some "mode", isGlobal := true, defaults := ["a"] }
    let between : Arg := { id := "mode", long := some "mode", action := some .setTrue }
    let command : Command :=
      { spec := { name := "app", args := [outer] }
        subcommands :=
          [{ spec := { name := "mid", args := [between] }
             subcommands :=
               [.leaf { name := "leaf", args := [{ id := "x", short := some 'x' }] }] }] }
    ∃ mid leaf, (ofCommand command).node? 1 = some mid ∧ (ofCommand command).node? 2 = some leaf
      ∧ mid.flag? "mode" = some ⟨"mode", "mode", none, none, none, false⟩
      ∧ leaf.flag? "mode" = some ⟨"mode", "mode", none, some "a", none, true⟩
      ∧ (leaf.flags.map (·.id)).Nodup := by
  intro outer between command
  obtain ⟨mid, hmid⟩ : ∃ mid, (ofCommand command).node? 1 = some mid := ⟨_, rfl⟩
  obtain ⟨leaf, hleaf⟩ : ∃ leaf, (ofCommand command).node? 2 = some leaf := ⟨_, rfl⟩
  obtain ⟨midLineage, hmidLineage, -, hmidFlag, -⟩ := flag?_in_scope hmid
  obtain ⟨leafLineage, hleafLineage, hnodup, hleafFlag, -⟩ := flag?_in_scope hleaf
  cases hmidLineage
  cases hleafLineage
  exact ⟨mid, leaf, hmid, hleaf, hmidFlag "mode", hleafFlag "mode", hnodup⟩

end CommandTelemetry
