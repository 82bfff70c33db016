import CommandTelemetry.Proofs.Command.ArenaTheorems
import CommandTelemetry.Proofs.Command.FlagScopeTheorems
import CommandTelemetry.Proofs.Invocation.TypedFlagsTheorems
import Mathlib.Data.List.Dedup

/-!
# Names and ids among the reported options

An option is looked up by its id and reported under a name, its long name or else its id. Both may
meet something else: an option from above the id of a positional, and an option without a long name
the long name of another.

* `CommandTree.option_in_lineage` ties the options of a node to those that its command and the
  commands above it declare;
* `Context.flags_among_positionals` says which positionals are reported as options;
* `Context.length_flags_iff` says when as many options are reported as were typed.
-/

namespace CommandTelemetry

/-! ## The options of a command with those above it -/

theorem FlagSpec.name_of_long {arg : Arg} {long : String} (h : arg.long = some long) :
    (ofArg arg).name = long := by
  rw [ofArg, h, Option.getD_some]

theorem FlagSpec.name_of_long_none {arg : Arg} (h : arg.long = none) :
    (ofArg arg).name = (ofArg arg).id := by
  simp only [ofArg, h, Option.getD_none]

theorem CommandSpec.mem_options_of_option? {spec : CommandSpec} {id : String} {arg : Arg}
    (h : spec.option? id = some arg) : arg ∈ spec.options ∧ arg.id = id := by
  have hmem := List.mem_of_find?_eq_some h
  have hid := List.find?_some h
  exact ⟨List.mem_reverse.1 hmem, of_decide_eq_true hid⟩

/-- Where ids are apart, the id of a positional is not that of an option. -/
theorem Command.option?_of_positional {command : Command} (h : command.ids.Nodup) {word : Arg}
    (hword : word ∈ command.spec.positionals) : command.spec.option? word.id = none := by
  cases hoption : command.spec.option? word.id with
  | none => rfl
  | some option =>
    obtain ⟨hmem, hid⟩ := CommandSpec.mem_options_of_option? hoption
    obtain ⟨hoptionArg, hflag⟩ := List.mem_filter.1 hmem
    obtain ⟨hwordArg, hpositional⟩ := List.mem_filter.1 hword
    -- one argument would be an option and a positional
    have hsame : option = word := List.inj_on_of_nodup_map h hoptionArg hwordArg hid
    rw [hsame, Scope.isFlag, hpositional, Bool.not_true, Bool.and_false] at hflag
    cases hflag

theorem Command.mem_preorder_of_lineage {command : Command} {id : NodeId} {lineage : Lineage}
    (h : command.lineages[id]? = some lineage) : lineage.command ∈ command.preorder := by
  rw [← map_command_lineages]
  exact List.mem_map_of_mem (List.mem_of_getElem? h)

namespace Lineage

variable {lineage : Lineage} {id : String} {arg : Arg}

/-- The global options of the commands above, those of the nearest command first. -/
def inherited (lineage : Lineage) : List Arg :=
  lineage.above.flatMap fun upper => upper.spec.options.filter (·.isGlobal)

/-- The options that a command declares, and behind them those from above. -/
def options (lineage : Lineage) : List Arg := lineage.command.spec.options ++ lineage.inherited

/-- The global option of that id that arrives from above. -/
def inherited? (lineage : Lineage) (id : String) : Option Arg :=
  lineage.above.findSome? (·.spec.globalOption? id)

/-- What an id means at a command. -/
def option? (lineage : Lineage) (id : String) : Option Arg :=
  (lineage.command.spec.option? id).or (lineage.inherited? id)

/-- Each long name belongs to one option. -/
def LongsApart (lineage : Lineage) : Prop :=
  ((lineage.options.filter (·.long.isSome)).map (·.long)).Nodup

instance (lineage : Lineage) : Decidable lineage.LongsApart :=
  inferInstanceAs (Decidable (List.Nodup _))

theorem mem_of_inherited? (h : lineage.inherited? id = some arg) :
    arg ∈ lineage.inherited ∧ arg.id = id := by
  obtain ⟨upper, hupper, hfind⟩ := List.exists_of_findSome?_eq_some h
  have hmem := List.mem_of_find?_eq_some hfind
  have hid := List.find?_some hfind
  exact ⟨List.mem_flatMap.2 ⟨upper, hupper, List.mem_reverse.1 hmem⟩, of_decide_eq_true hid⟩

theorem isSome_inherited?_iff :
    (lineage.inherited? id).isSome = true ↔ ∃ option ∈ lineage.inherited, option.id = id := by
  constructor
  · intro hsome
    obtain ⟨option, hoption⟩ := Option.isSome_iff_exists.1 hsome
    exact ⟨option, mem_of_inherited? hoption⟩
  · rintro ⟨option, hoption, hid⟩
    obtain ⟨upper, hupper, hmem⟩ := List.mem_flatMap.1 hoption
    refine List.findSome?_isSome_iff.2 ⟨upper, hupper, List.find?_isSome.2 ⟨option, ?_, ?_⟩⟩
    · exact List.mem_reverse.2 hmem
    · exact decide_eq_true hid

theorem mem_of_option? (h : lineage.option? id = some arg) : arg ∈ lineage.options := by
  rcases Option.or_eq_some_iff.1 h with hown | ⟨-, habove⟩
  · exact List.mem_append_left _ (CommandSpec.mem_options_of_option? hown).1
  · exact List.mem_append_right _ (mem_of_inherited? habove).1

theorem LongsApart.eq_of_long (h : lineage.LongsApart) {first second : Arg} {long : String}
    (hfirst : first ∈ lineage.options) (hsecond : second ∈ lineage.options)
    (hfirstLong : first.long = some long) (hsecondLong : second.long = some long) :
    first = second := by
  have hnamed : ∀ option ∈ lineage.options, option.long = some long →
      option ∈ lineage.options.filter (·.long.isSome) := fun option hoption hlong =>
    List.mem_filter.2 ⟨hoption, by rw [hlong, Option.isSome_some]⟩
  exact List.inj_on_of_nodup_map h (hnamed first hfirst hfirstLong)
    (hnamed second hsecond hsecondLong) (hfirstLong.trans hsecondLong.symm)

end Lineage

/-! ## The options of a node -/

namespace CommandTree

/-- A node has the options of its command and of those above it, and an id means there what it means
at the command. -/
theorem option_in_lineage {command : Command} {id : NodeId} {node : CommandNode}
    (hnode : (ofCommand command).node? id = some node) :
    ∃ lineage, command.lineages[id]? = some lineage
      ∧ node.positionals = lineage.command.spec.wordIds
      ∧ (node.flags.map (·.id)).Nodup
      ∧ ∀ option, node.flag? option = (lineage.option? option).map FlagSpec.ofArg := by
  obtain ⟨lineage, hlineage⟩ := exists_lineage (lt_of_node? hnode)
  obtain ⟨parent, hholds⟩ := (placed_of_lineages hlineage).holds
  obtain ⟨same, hsame, hof⟩ := hholds.node
  rw [hnode] at hsame
  cases hsame
  refine ⟨lineage, hlineage, ?_, ?_, fun option => ?_⟩
  · rw [hof.positionals, Scope.positionals_ofSpec]
  · rw [hof.flags, Scope.flags_ofSpec]
    exact nodup_foldl_putFlag _ (Scope.nodup_handedDown _)
  · rw [CommandNode.flag?, hof.flags, Scope.find?_flags_ofSpec, Scope.find?_handedDown,
      Lineage.option?, Lineage.inherited?]
    cases lineage.command.spec.option? option with
    | none => rfl
    | some arg => rfl

end CommandTree

namespace CommandNode

variable {node : CommandNode} {lineage : Lineage} {records : Matches} {record : Match}
  {id name : String}

theorem flagsApart_of_nodup (h : (node.flags.map (·.id)).Nodup) : node.FlagsApart :=
  fun _ hfirst _ hsecond hsame => List.inj_on_of_nodup_map h hfirst hsecond hsame

/-- The options of a node that these records have as typed. -/
def typedFlags (node : CommandNode) (records : Matches) : List FlagSpec :=
  node.flags.filter fun flag => records.isTyped flag.id

theorem exists_mem_flags_iff :
    (∃ flag ∈ node.flags, flag.id = id) ↔ (node.flag? id).isSome = true := by
  rw [flag?, List.find?_isSome]
  simp only [decide_eq_true_eq]

theorem isSome_explicitFlag?_iff : (node.explicitFlag? record).isSome = true
    ↔ (node.flag? record.id).isSome = true ∧ record.source = .commandLine := by
  rw [explicitFlag?]
  cases node.flag? record.id with
  | none => simp
  | some flag => by_cases hsource : record.source = .commandLine <;> simp [hsource]

/-- What is reported are the names of the options that were typed. -/
theorem mem_names_explicitFlags (h : node.FlagsApart) (hrecords : records.ids.Nodup) :
    name ∈ (node.explicitFlags records).names
      ↔ name ∈ (node.typedFlags records).map (·.name) := by
  rw [explicitFlags, Flags.mem_names_ofPairs, List.mem_map, List.mem_map]
  constructor
  · rintro ⟨pair, hpair, rfl⟩
    obtain ⟨record, hrecord, hreported⟩ := List.mem_filterMap.1 hpair
    obtain ⟨flag, hflag, hid, hsource, rfl⟩ := (explicitFlag?_eq_some_iff h).1 hreported
    have htyped := (Matches.isTyped_iff hrecords).2 ⟨record, hrecord, hid.symm, hsource⟩
    exact ⟨flag, List.mem_filter.2 ⟨hflag, htyped⟩, rfl⟩
  · rintro ⟨flag, hmem, rfl⟩
    obtain ⟨hflag, htyped⟩ := List.mem_filter.1 hmem
    obtain ⟨record, hrecord, hid, hsource⟩ := (Matches.isTyped_iff hrecords).1 htyped
    have hreported := (explicitFlag?_eq_some_iff h).2 ⟨flag, hflag, hid.symm, hsource, rfl⟩
    exact ⟨_, List.mem_filterMap.2 ⟨record, hrecord, hreported⟩, rfl⟩

/-- All typed options are reported just if no two of them have the same name. -/
theorem length_explicitFlags_iff (h : (node.flags.map (·.id)).Nodup)
    (hrecords : records.ids.Nodup) :
    (node.explicitFlags records).pairs.length = (node.typedFlags records).length
      ↔ ∀ first ∈ node.typedFlags records, ∀ second ∈ node.typedFlags records,
          first.name = second.name → first = second := by
  have htyped : (node.typedFlags records).Nodup := h.of_map.filter _
  have hlength := Flags.length_pairs_eq fun _ =>
    mem_names_explicitFlags (flagsApart_of_nodup h) hrecords
  -- a name that two options have is counted once among those reported
  rw [hlength, ← List.nodup_map_iff_inj_on htyped, ← List.dedup_eq_self]
  constructor
  · intro hsame
    exact (List.dedup_sublist _).eq_of_length (hsame.trans (List.length_map _).symm)
  · intro hsame
    rw [hsame, List.length_map]

/-- Two options with the same name are the same, unless the name is the id of one of them. -/
theorem eq_of_name (h : node.FlagsApart) (hlongs : lineage.LongsApart)
    (hflags : ∀ id, node.flag? id = (lineage.option? id).map FlagSpec.ofArg)
    {first second : FlagSpec} (hfirst : first ∈ node.flags) (hsecond : second ∈ node.flags)
    (hname : first.name = second.name) :
    first = second ∨ first.name = first.id ∨ second.name = second.id := by
  have hdeclared : ∀ flag ∈ node.flags, ∃ arg ∈ lineage.options, FlagSpec.ofArg arg = flag := by
    intro flag hflag
    have hfound := (flag?_eq_some_iff h).2 ⟨hflag, rfl⟩
    rw [hflags, Option.map_eq_some_iff] at hfound
    obtain ⟨arg, harg, hofArg⟩ := hfound
    exact ⟨arg, Lineage.mem_of_option? harg, hofArg⟩
  obtain ⟨firstArg, hfirstArg, rfl⟩ := hdeclared first hfirst
  obtain ⟨secondArg, hsecondArg, rfl⟩ := hdeclared second hsecond
  -- a long name belongs to one option, and an option without one is called by its id
  cases hfirstLong : firstArg.long with
  | none => exact Or.inr (Or.inl (FlagSpec.name_of_long_none hfirstLong))
  | some long =>
    cases hsecondLong : secondArg.long with
    | none => exact Or.inr (Or.inr (FlagSpec.name_of_long_none hsecondLong))
    | some other =>
      rw [FlagSpec.name_of_long hfirstLong, FlagSpec.name_of_long hsecondLong] at hname
      have hsame := hlongs.eq_of_long hfirstArg hsecondArg hfirstLong (hname ▸ hsecondLong)
      exact Or.inl (congrArg FlagSpec.ofArg hsame)

end CommandNode

/-! ## Positionals among the reported options -/

/-- A positional has the id of an option of its node just if a global option from above has it. -/
theorem CommandTree.flag?_of_positional {node : CommandNode} {lineage : Lineage}
    (hids : lineage.command.ids.Nodup)
    (hflags : ∀ id, node.flag? id = (lineage.option? id).map FlagSpec.ofArg) {word : Arg}
    (hword : word ∈ lineage.command.spec.positionals) :
    (node.flag? word.id).isSome = true ↔ ∃ option ∈ lineage.inherited, option.id = word.id := by
  rw [hflags, Option.isSome_map, Lineage.option?, Command.option?_of_positional hids hword,
    Option.none_or, Lineage.isSome_inherited?_iff]

/-- The ids of the positionals of a node are among those of its options just where a global option
from above has them. What is reported comes from the records of the command that runs, and a
positional is among it just if it was typed and a global option from above has its id. -/
theorem Context.flags_among_positionals {command : Command}
    (hids : ∀ lower ∈ command.preorder, lower.ids.Nodup) :
    let tree := CommandTree.ofCommand command
    (∀ id node, tree.node? id = some node → ∃ lineage, command.lineages[id]? = some lineage
      ∧ ∀ word ∈ node.positionals, (∃ flag ∈ node.flags, flag.id = word)
        ↔ ∃ option ∈ lineage.inherited, option.id = word)
    ∧ ∀ parsed, ∃ lineage node,
      command.lineages[(ofParsed tree parsed).node]? = some lineage
      ∧ tree.node? (ofParsed tree parsed).node = some node
      ∧ (∀ name value, (ofParsed tree parsed).flags.get? name = some value →
          ∃ record ∈ (tree.resolve parsed).2.records,
            node.explicitFlag? record = some (name, value))
      ∧ ∀ record ∈ (tree.resolve parsed).2.records, ∀ word ∈ lineage.command.spec.positionals,
          record.id = word.id →
            ((node.explicitFlag? record).isSome = true ↔ record.source = .commandLine
              ∧ ∃ option ∈ lineage.inherited, option.id = word.id) := by
  intro tree
  constructor
  · intro id node hnode
    obtain ⟨lineage, hlineage, hpositionals, -, hflags⟩ := CommandTree.option_in_lineage hnode
    refine ⟨lineage, hlineage, fun id hid => ?_⟩
    rw [hpositionals] at hid
    obtain ⟨word, hword, rfl⟩ := List.mem_map.1 hid
    have hlower := hids _ (Command.mem_preorder_of_lineage hlineage)
    rw [CommandNode.exists_mem_flags_iff]
    exact CommandTree.flag?_of_positional hlower hflags (List.mem_filter.1 hword).1
  · intro parsed
    obtain ⟨node, hnode⟩ := CommandTree.node?_resolve command parsed
    obtain ⟨lineage, hlineage, -, -, hflags⟩ := CommandTree.option_in_lineage hnode
    have hlower := hids _ (Command.mem_preorder_of_lineage hlineage)
    rw [ofParsed_eq hnode]
    refine ⟨lineage, node, hlineage, hnode, fun name value hget => ?_, ?_⟩
    · exact List.mem_filterMap.1 (Flags.mem_of_get?_ofPairs hget)
    · intro record _ word hword hid
      have hflag := CommandTree.flag?_of_positional hlower hflags hword
      rw [CommandNode.isSome_explicitFlag?_iff, hid, hflag, and_comm]

/-- Of two positionals the one that shares its id with an option from above is reported. -/
theorem Context.flags_among_positionals_one_of_two :
    let outer : Arg := { id := "x", long := some "x", isGlobal := true }
    let shared : Arg := { id := "x" }
    let other : Arg := { id := "y" }
    let command : Command :=
      { spec := { name := "app", args := [outer] }
        subcommands := [.leaf { name := "a", args := [shared, other] }] }
    let tree := CommandTree.ofCommand command
    ∃ parsed node, command.parse ["app", "a", "1", "2"] = .ok parsed
      ∧ tree.node? (ofParsed tree parsed).node = some node
      ∧ (tree.resolve parsed).2.records.ids = [shared.id, other.id]
      ∧ ∀ record ∈ (tree.resolve parsed).2.records,
          (record.id = shared.id → (node.explicitFlag? record).isSome = true)
            ∧ (record.id = other.id → ¬ (node.explicitFlag? record).isSome = true) := by
  intro outer shared other command tree
  have hids : ∀ lower ∈ command.preorder, lower.ids.Nodup := by decide +kernel
  obtain ⟨parsed, hparse, hplace, hrecords, htyped⟩ :
      ∃ parsed, command.parse ["app", "a", "1", "2"] = .ok parsed
        ∧ (ofParsed tree parsed).node = 1
        ∧ (tree.resolve parsed).2.records.ids = ["x", "y"]
        ∧ ∀ record ∈ (tree.resolve parsed).2.records, record.source = .commandLine :=
    Command.exists_parse (by decide +kernel)
  obtain ⟨lineage, node, hlineage, hnode, -, hreported⟩ := (flags_among_positionals hids).2 parsed
  rw [hplace] at hlineage
  cases hlineage
  refine ⟨parsed, node, hparse, hnode, hrecords, fun record hrecord => ?_⟩
  refine ⟨fun hid => ?_, fun hid => ?_⟩
  · rw [hreported record hrecord shared (by decide) hid]
    exact ⟨htyped record hrecord, outer, by decide, rfl⟩
  · rw [hreported record hrecord other (by decide) hid]
    rintro ⟨-, option, hoption, hsame⟩
    have honly : option = outer := List.mem_singleton.1 hoption
    rw [honly] at hsame
    exact absurd hsame (by decide)

/-- A positional with the id of a global option from above is reported as that option, though ids
are apart within each command. -/
theorem Context.positional_reported_as_flag :
    let outer : Arg := { id := "x", long := some "x", isGlobal := true }
    let command : Command :=
      { spec := { name := "app", args := [outer] }
        subcommands := [.leaf { name := "a", args := [{ id := "x" }] }] }
    let tree := CommandTree.ofCommand command
    (∀ lower ∈ command.preorder, lower.ids.Nodup)
      ∧ ∃ parsed node, command.parse ["app", "a", "1"] = .ok parsed
        ∧ tree.node? (ofParsed tree parsed).node = some node
        ∧ (∃ flag ∈ node.flags, flag.id ∈ node.positionals)
        ∧ (ofParsed tree parsed).args = ["1"]
        ∧ (ofParsed tree parsed).flags.pairs = [("x", "1")] := by
  intro outer command tree
  exact ⟨by decide +kernel, _, _, rfl, rfl, by decide +kernel⟩

/-! ## The number of reported options -/

/-- The records of the command that runs are one for each argument. -/
theorem CommandTree.nodup_ids_resolve {command : Command} {argv : List String} {parsed : Parsed}
    (hparse : command.parse argv = .ok parsed) (tree : CommandTree) :
    (tree.resolve parsed).2.records.ids.Nodup := by
  obtain ⟨-, read, hread, rfl⟩ := Command.parse_ok hparse
  have hlevels := Reader.nodup_ids_of_read (Reader.tallied_start _) hread
  exact Globals.nodup_ids_share hlevels _ (tree.descend_mem _ _ _)

/-- Where long names are apart, as many options are reported as were typed, unless the id of a typed
option without a long name is the name of another typed one. -/
theorem Context.length_flags_iff {command : Command} {argv : List String} {parsed : Parsed}
    (hlongs : ∀ lineage ∈ command.lineages, lineage.LongsApart)
    (hparse : command.parse argv = .ok parsed) :
    let tree := CommandTree.ofCommand command
    ∃ node, tree.node? (ofParsed tree parsed).node = some node
      ∧ let typed := node.typedFlags (tree.resolve parsed).2.records
        ((ofParsed tree parsed).flags.pairs.length = typed.length
          ↔ ∀ first ∈ typed, ∀ second ∈ typed,
              first.name = first.id → second.name = first.id → second = first) := by
  intro tree
  obtain ⟨node, hnode⟩ := CommandTree.node?_resolve command parsed
  obtain ⟨lineage, hlineage, -, hnodup, hflags⟩ := CommandTree.option_in_lineage hnode
  have hrecords := CommandTree.nodup_ids_resolve hparse tree
  rw [ofParsed_eq hnode]
  refine ⟨node, hnode, (CommandNode.length_explicitFlags_iff hnodup hrecords).trans ?_⟩
  constructor
  · intro hnames first hfirst second hsecond hfirstName hsecondName
    exact hnames second hsecond first hfirst (hsecondName.trans hfirstName.symm)
  · intro hapart first hfirst second hsecond hname
    have hclash := CommandNode.eq_of_name (CommandNode.flagsApart_of_nodup hnodup)
      (hlongs lineage (List.mem_of_getElem? hlineage)) hflags (List.mem_filter.1 hfirst).1
      (List.mem_filter.1 hsecond).1 hname
    rcases hclash with hsame | hfirstName | hsecondName
    · exact hsame
    · exact (hapart first hfirst second hsecond hfirstName (hname ▸ hfirstName)).symm
    · exact hapart second hsecond first hfirst hsecondName (hname ▸ hsecondName)

/-- Options that were typed at two levels are both reported. -/
theorem Context.length_flags_iff_two_levels :
    let tree := CommandTree.ofCommand Command.sample
    ∃ parsed, Command.sample.parse ["acontext", "--config", "a", "docker", "logs", "-f"]
        = .ok parsed
      ∧ (ofParsed tree parsed).flags.pairs.length = 2 := by
  intro tree
  have hlongs : ∀ lineage ∈ Command.sample.lineages, lineage.LongsApart := by decide +kernel
  obtain ⟨parsed, hparse, htyped⟩ : ∃ parsed, Command.sample.parse
        ["acontext", "--config", "a", "docker", "logs", "-f"] = .ok parsed
      ∧ ∀ node, tree.node? (ofParsed tree parsed).node = some node →
        let typed := node.typedFlags (tree.resolve parsed).2.records
        typed.length = 2 ∧ ∀ first ∈ typed, ∀ second ∈ typed,
          first.name = first.id → second.name = first.id → second = first :=
    Command.exists_parse (by decide +kernel)
  obtain ⟨node, hnode, hlength⟩ := length_flags_iff hlongs hparse
  obtain ⟨htwo, hapart⟩ := htyped node hnode
  exact ⟨parsed, hparse, (hlength.2 hapart).trans htwo⟩

/-- An option without a long name is lost when one whose long name is its id is typed too, though
ids, long names and letters are apart in the whole command. -/
theorem Context.typed_flag_lost :
    let command := Command.leaf
      { name := "app", args := [{ id := "x", short := some 'x' }, { id := "y", long := some "x" }] }
    let tree := CommandTree.ofCommand command
    let declared := (command.outermost (some "app")).args
    command.idsApart [] = true ∧ (declared.map (·.id)).Nodup
      ∧ (declared.filterMap (·.long)).Nodup ∧ (declared.filterMap (·.short)).Nodup
      ∧ ∃ parsed node, command.parse ["app", "-x", "1", "--x", "2"] = .ok parsed
        ∧ tree.node? (ofParsed tree parsed).node = some node
        ∧ (node.typedFlags (tree.resolve parsed).2.records).length = 2
        ∧ (ofParsed tree parsed).flags.pairs = [("x", "2")] := by
  intro command tree declared
  refine ⟨by decide +kernel, by decide +kernel, by decide +kernel, by decide +kernel, ?_⟩
  exact ⟨_, _, rfl, rfl, by decide +kernel⟩

end CommandTelemetry
