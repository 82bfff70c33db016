import CommandTelemetry.Proofs.Command.DistinctCommandTheorems
import CommandTelemetry.Proofs.CommandLine.DescentTheorems
import CommandTelemetry.Proofs.CommandLine.GlobalsTheorems
import CommandTelemetry.Proofs.CommandLine.UseTheorems
import CommandTelemetry.Proofs.Invocation.ResolveTheorems
import CommandTelemetry.Proofs.Report.FlagsTheorems

/-!
# The reported flags are those that were typed

Every level of a command line keeps which options were typed at it. A global option is also shared
down to the levels below, so what is reported of the command that runs may come from any level above.

* `HandedDown.isTyped_eq_used` says of a level that an option is recorded as typed just if it was;
* `Reader.leads_of_read` collects over all levels what is needed of the options of the last command
  (`FlagSpec.Follows`), and that the levels lead to this command (`Parsed.Leads`);
* `CommandNode.get?_explicitFlags_iff` says what is reported of given records;
* `Context.flags_reportTyped` says that exactly the options that were typed are reported, each with
  the value of the deepest level that it was typed at.
-/

namespace CommandTelemetry

/-- An option was typed at this level. -/
def LevelRecord.used (level : LevelRecord) (id : String) : Bool :=
  level.uses.contains (.option id)

/-! ## One level -/

namespace HandedDown

variable {above : Inheritance} {declared : List String} {globals : List FlagSpec}
  {command sub : Command} {calledBy : Option String} {top : LevelRecord} {arg : Arg} {id : String}

/-- An option is recorded as typed just if an occurrence of it was read. -/
theorem isTyped_eq_used (h : HandedDown above declared globals)
    (hids : (declared ++ command.ids).Nodup)
    (htop : top.Tallied (Level.ofCommand calledBy above command))
    (hknown : Known above command arg) (hflag : Scope.isFlag arg = true) :
    top.records.isTyped arg.id = top.used arg.id := by
  rw [Bool.eq_iff_iff, ← htop.used, LevelRecord.used, List.contains_iff_mem]
  constructor
  · intro hused
    obtain ⟨use, huse, hid⟩ := List.mem_map.1 hused
    cases use with
    | option id =>
      cases hid
      exact huse
    | positional id value =>
      -- the id of an option is not that of a positional
      cases hid
      obtain ⟨other, hother, hsame⟩ := htop.positional _ value huse
      obtain ⟨hmem, hpositional⟩ := List.mem_filter.1 hother
      have hknownOther := h.known_of_mem hids hmem (·.isPositional) hpositional rfl rfl
      rw [h.eq_of_id hids hknownOther hknown hsame] at hpositional
      rw [Scope.isFlag, hpositional, Bool.not_true, Bool.and_false] at hflag
      cases hflag
  · exact fun hused => List.mem_map.2 ⟨_, hused, rfl⟩

/-- What is declared nowhere on the way to a level was not typed there. -/
theorem not_typed (h : HandedDown above declared globals)
    (hids : (declared ++ command.ids).Nodup)
    (htop : top.Tallied (Level.ofCommand calledBy above command))
    (hnew : id ∉ declared ++ command.ids) :
    top.records.isTyped id = false ∧ top.used id = false := by
  have hnot : ¬ top.records.isTyped id = true := by
    intro htyped
    obtain ⟨arg, harg, rfl, hhides⟩ := htop.declared id htyped
    have hkeeps : (!arg.effectiveAction.shows) = true := by
      rw [hhides]
      rfl
    have hknown := h.known_of_mem hids harg (!·.effectiveAction.shows) hkeeps rfl rfl
    exact hnew (h.id_mem hknown)
  refine ⟨eq_false_of_ne_true hnot, eq_false_of_ne_true fun hused => hnot ?_⟩
  rw [LevelRecord.used, List.contains_iff_mem] at hused
  exact (htop.used id).1 (List.mem_map.2 ⟨_, hused, rfl⟩)

end HandedDown

/-! ## All levels -/

/-- What the levels of a command line have of an option of its last command. -/
structure FlagSpec.Follows (flag : FlagSpec) (above : Inheritance) (declared : List String)
    (levels : List LevelRecord) : Prop where
  /-- It was handed down to the first level, or declared there or below. -/
  origin : (∃ arg ∈ above.globals, Scope.isFlag arg = true ∧ FlagSpec.ofArg arg = flag)
    ∨ flag.id ∉ declared
  typed : ∀ level ∈ levels, level.records.isTyped flag.id = level.used flag.id
  /-- Above the last level only a global option can be typed. -/
  isGlobal : ∀ level ∈ levels.dropLast, level.records.isTyped flag.id = true →
    flag.id ∈ level.globalIds

/-- Options of a node with the same id are the same. -/
def CommandNode.FlagsApart (node : CommandNode) : Prop :=
  ∀ first ∈ node.flags, ∀ second ∈ node.flags, first.id = second.id → first = second

/-- Where a command line leads, and what its levels have of the options there. -/
structure Parsed.Leads (tree : CommandTree) (start : NodeId) (above : Inheritance)
    (declared : List String) (read : Parsed) : Prop where
  apart : ∀ level ∈ read.levels, level.records.ids.Nodup
  node : ∃ last node, read.chain.foldlM tree.child? start = some last ∧ tree.node? last = some node
    ∧ node.FlagsApart ∧ ∀ flag ∈ node.flags, flag.Follows above declared read.levels

namespace Reader

variable {tree : CommandTree} {parent : Option NodeId} {above : Inheritance}
  {declared : List String} {globals : List FlagSpec} {id : NodeId} {command sub : Command}
  {calledBy : Option String} {progress : Progress} {arguments : List String} {read below : Parsed}
  {top : LevelRecord}

/-- The last level. -/
theorem leads_of_end (hholds : tree.Holds parent globals id command)
    (hdown : HandedDown above declared globals) (hids : (declared ++ command.ids).Nodup)
    (htop : top.Tallied (Level.ofCommand calledBy above command)) :
    Parsed.Leads tree id above declared ⟨top, []⟩ := by
  obtain ⟨node, hnode, hof⟩ := hholds.node
  refine ⟨?_, id, node, rfl, hnode, ?_, ?_⟩
  · intro level hlevel
    rw [List.mem_singleton.1 hlevel]
    exact htop.apart
  · intro first hfirst second hsecond
    rw [hof.flags] at hfirst hsecond
    exact hdown.flags_apart hids hfirst hsecond
  · intro flag hmem
    rw [hof.flags, hdown.mem_flags hids] at hmem
    obtain ⟨arg, hknown, hflag, rfl⟩ := hmem
    have horigin := HandedDown.handed_or_new hids hknown
    refine ⟨horigin.imp_left fun hold => ⟨arg, hold, hflag, rfl⟩, ?_,
      fun level hlevel => by cases hlevel⟩
    intro level hlevel
    rw [List.mem_singleton.1 hlevel]
    exact hdown.isTyped_eq_used hids htop hknown hflag

/-- One level more above those that were read below it. -/
theorem leads_of_descend (hdown : HandedDown above declared globals)
    (hids : (declared ++ command.ids).Nodup)
    (hhelp : (Level.ofCommand none above command).isHelp sub = false) {child : NodeId}
    (hchild : tree.child? id below.top.command = some child)
    (htop : top.Tallied (Level.ofCommand calledBy above command))
    (hbelow : below.Leads tree child (command.handsOn above sub) (declared ++ command.ids)) :
    Parsed.Leads tree id above declared ⟨top, below.levels⟩ := by
  obtain ⟨hapart, last, node, hchain, hnode, hflags, hfollows⟩ := hbelow
  refine ⟨List.forall_mem_cons.2 ⟨htop.apart, hapart⟩, last, node, ?_, hnode, hflags, ?_⟩
  · show (below.top.command :: below.chain).foldlM tree.child? id = some last
    rw [List.foldlM_cons, hchild]
    exact hchain
  · intro flag hmem
    obtain ⟨horigin, htyped, hglobal⟩ := hfollows flag hmem
    have htopTyped : top.records.isTyped flag.id = top.used flag.id
        ∧ (top.records.isTyped flag.id = true → flag.id ∈ top.globalIds)
        ∧ ((∃ arg ∈ above.globals, Scope.isFlag arg = true ∧ FlagSpec.ofArg arg = flag)
          ∨ flag.id ∉ declared) := by
      rcases horigin with ⟨arg, harg, hflag, rfl⟩ | hnew
      · -- the option is handed on, so it is global here
        obtain ⟨hknown, harg⟩ := (hdown.mem_handsOn_iff hids hhelp).1 harg
        refine ⟨hdown.isTyped_eq_used hids htop hknown hflag, fun _ => ?_, ?_⟩
        · rw [htop.globalIds]
          exact List.mem_map_of_mem (List.mem_filter.2 ⟨hdown.mem_of_known hids hknown, harg⟩)
        · have horigin := HandedDown.handed_or_new hids hknown
          exact horigin.imp_left fun hold => ⟨arg, hold, hflag, rfl⟩
      · -- the option is declared further down, so nothing of it is here
        obtain ⟨hnot, hunused⟩ := hdown.not_typed hids htop hnew
        refine ⟨hnot.trans hunused.symm, fun htyped => ?_, ?_⟩
        · rw [hnot] at htyped
          cases htyped
        · exact Or.inr fun hmem => hnew (List.mem_append_left _ hmem)
    refine ⟨htopTyped.2.2, List.forall_mem_cons.2 ⟨htopTyped.1, htyped⟩, ?_⟩
    exact List.forall_mem_cons.2 ⟨htopTyped.2.1, hglobal⟩

/-- Whatever is read leads to a command of the tree. -/
theorem leads_of_read (hholds : tree.Holds parent globals id command)
    (hdown : HandedDown above declared globals) (hids : command.idsApart declared = true)
    (hapart : command.LeadsApart)
    (hprogress : progress.Tallied (Level.ofCommand calledBy above command))
    (hread : Reader.read (Level.ofCommand calledBy above command) progress arguments = .ok read) :
    read.Leads tree id above declared := by
  obtain ⟨inner, last, hdescent⟩ :
      ∃ inner last, Descent calledBy above command progress read inner last :=
    ⟨_, _, descent_of_read hapart hread⟩
  clear hread
  -- a subcommand goes on at its child, with the options that are handed down
  induction hdescent generalizing parent declared globals id with
  | ended hmoves hfinish =>
    have htop := tallied_of_finish (tallied_of_moves hprogress hmoves) hfinish
    exact leads_of_end hholds hdown (Command.idsApart_iff.1 hids).1 htop
  | @descended _ _ _ command sub _ _ _ _ _ _ _ hmoves hsub hhelp _ hname hfinish ih =>
    have hmem : sub ∈ command.subcommands := List.mem_of_find?_eq_some hsub
    obtain ⟨child, -, hchild, hbelow⟩ := hapart.child? hholds hsub
    obtain ⟨hidsHere, hidsBelow⟩ := Command.idsApart_iff.1 hids
    have htop := tallied_of_finish (tallied_of_moves hprogress hmoves) hfinish
    have hleads := ih hbelow (hdown.below hidsHere hhelp) (hidsBelow sub hmem)
      (hapart.ofSubcommand hmem) (tallied_start _)
    exact leads_of_descend hdown hidsHere hhelp (hname ▸ hchild) htop hleads

end Reader

/-! ## The command that runs -/

/-- The way down follows all that was chosen, if it is in the tree. -/
theorem CommandTree.descend_of_chain {tree : CommandTree} {id last : NodeId} {top : LevelRecord}
    {below : List LevelRecord}
    (h : (below.map (·.command)).foldlM tree.child? id = some last) :
    tree.descend id top below = (last, (top :: below).getLast (List.cons_ne_nil _ _)) := by
  induction below generalizing id top with
  | nil =>
    cases h
    rfl
  | cons next rest ih =>
    rw [List.map_cons, List.foldlM_cons] at h
    obtain ⟨child, hchild, hrest⟩ := Option.bind_eq_some_iff.1 h
    rw [descend, hchild]
    exact ih hrest

namespace CommandNode

variable {node : CommandNode} {records : Matches} {flag : FlagSpec}

theorem flag?_eq_some_iff (h : node.FlagsApart) {id : String} :
    node.flag? id = some flag ↔ flag ∈ node.flags ∧ flag.id = id := by
  constructor
  · intro hfind
    exact ⟨List.mem_of_find?_eq_some hfind, by simpa using List.find?_some hfind⟩
  · rintro ⟨hmem, rfl⟩
    cases hfind : node.flag? flag.id with
    | none => simpa using List.find?_eq_none.1 hfind flag hmem
    | some found =>
      have hsame : found.id = flag.id := by simpa using List.find?_some hfind
      rw [h found (List.mem_of_find?_eq_some hfind) flag hmem hsame]

theorem explicitFlag?_eq_some_iff (h : node.FlagsApart) {record : Match}
    {pair : String × String} : node.explicitFlag? record = some pair
      ↔ ∃ flag ∈ node.flags, flag.id = record.id ∧ record.source = .commandLine
          ∧ (flag.name, record.shown) = pair := by
  rw [explicitFlag?, Option.bind_eq_some_iff]
  simp only [flag?_eq_some_iff h, Option.ite_none_right_eq_some, Option.some.injEq, and_assoc]

/-- No name is reported twice. -/
theorem nodup_explicitFlag?_names (h : node.FlagsApart) (hnames : (node.flags.map (·.name)).Nodup)
    (hrecords : records.ids.Nodup) :
    ((records.filterMap node.explicitFlag?).map (·.1)).Nodup := by
  have hapart : records.Pairwise fun first second => first.id ≠ second.id :=
    List.pairwise_map.1 hrecords
  refine List.pairwise_map.2 (List.pairwise_filterMap.2 (hapart.imp ?_))
  intro first second hne firstPair hfirst secondPair hsecond hsame
  obtain ⟨firstFlag, hfirstFlag, hfirstId, -, rfl⟩ := (explicitFlag?_eq_some_iff h).1 hfirst
  obtain ⟨secondFlag, hsecondFlag, hsecondId, -, rfl⟩ := (explicitFlag?_eq_some_iff h).1 hsecond
  -- the same name is that of the same option, and so of the same record
  have hflag := List.inj_on_of_nodup_map hnames hfirstFlag hsecondFlag hsame
  exact hne (hfirstId.symm.trans (hflag ▸ hsecondId))

/-- The reported options of a node are those that its records have as typed. -/
theorem get?_explicitFlags_iff (h : node.FlagsApart) (hnames : (node.flags.map (·.name)).Nodup)
    (hrecords : records.ids.Nodup) {name value : String} :
    (node.explicitFlags records).get? name = some value
      ↔ ∃ flag ∈ node.flags, flag.name = name ∧ ∃ record, records.get? flag.id = some record
          ∧ record.source = .commandLine ∧ record.shown = value := by
  rw [explicitFlags, Flags.get?_ofPairs_eq_some_iff (nodup_explicitFlag?_names h hnames hrecords),
    List.mem_filterMap]
  constructor
  · rintro ⟨record, hrecord, hpair⟩
    obtain ⟨flag, hflag, hid, hsource, hpair⟩ := (explicitFlag?_eq_some_iff h).1 hpair
    obtain ⟨hname, hvalue⟩ := Prod.mk.inj hpair
    have hget := (Matches.get?_eq_some_iff hrecords).2 ⟨hrecord, hid.symm⟩
    exact ⟨flag, hflag, hname, record, hget, hsource, hvalue⟩
  · rintro ⟨flag, hflag, hname, record, hget, hsource, hvalue⟩
    obtain ⟨hrecord, hid⟩ := (Matches.get?_eq_some_iff hrecords).1 hget
    refine ⟨record, hrecord, (explicitFlag?_eq_some_iff h).2 ?_⟩
    exact ⟨flag, hflag, hid.symm, hsource, by rw [hname, hvalue]⟩

end CommandNode

/-! ## Whole command lines -/

namespace Parsed

/-- The deepest level at which an option was typed. -/
def deepestUse? (read : Parsed) (id : String) : Option LevelRecord :=
  read.levels.reverse.find? (·.used id)

end Parsed

/-- A command definition in which a word leads to one subcommand, an id stands for one argument, and
a reported name for one option. -/
structure Command.IsDistinct (command : Command) : Prop where
  leadsApart : command.LeadsApart
  ids : command.idsApart [] = true
  names : ∀ node ∈ (CommandTree.ofCommand command).nodes, (node.flags.map (·.name)).Nodup

instance (command : Command) : Decidable command.IsDistinct :=
  decidable_of_iff
    (command.LeadsApart ∧ command.idsApart [] = true
      ∧ ∀ node ∈ (CommandTree.ofCommand command).nodes, (node.flags.map (·.name)).Nodup)
    ⟨fun ⟨hleads, hids, hnames⟩ => ⟨hleads, hids, hnames⟩,
      fun ⟨hleads, hids, hnames⟩ => ⟨hleads, hids, hnames⟩⟩

/-- What is reported of the options of a command, when a command line was read that runs it. -/
structure Flags.ReportTyped (flags : Flags) (node : CommandNode) (read : Parsed) : Prop where
  /-- An option is reported if it was typed at the level that runs or is a global one that was typed
  at a level which has it. -/
  reported : ∀ flag ∈ node.flags, (flags.get? flag.name).isSome = true
    ↔ read.last.used flag.id = true
      ∨ ∃ level ∈ read.levels, flag.id ∈ level.globalIds ∧ level.used flag.id = true
  /-- Nothing else is reported. -/
  known : ∀ name, (flags.get? name).isSome = true → ∃ flag ∈ node.flags, flag.name = name
  /-- The value is the one of the deepest level that the option was typed at: all values that this
  level has of it with commas between them, or `true` if it has none. -/
  value : ∀ flag ∈ node.flags, ∀ level, read.deepestUse? flag.id = some level →
    ∃ record, level.records.get? flag.id = some record
      ∧ flags.get? flag.name
        = some (if record.values = [] then "true" else String.intercalate "," record.values)

namespace Parsed

variable {read : Parsed} {flag : FlagSpec} {above : Inheritance} {declared : List String}
  {level : LevelRecord} {id : String}

theorem mem_of_deepestUse? (h : read.deepestUse? id = some level) :
    level ∈ read.levels ∧ level.used id = true := by
  unfold deepestUse? at h
  have hused := List.find?_some h
  exact ⟨List.mem_reverse.1 (List.mem_of_find?_eq_some h), hused⟩

theorem isSome_deepestUse? (hlevel : level ∈ read.levels) (hused : level.used id = true) :
    (read.deepestUse? id).isSome = true :=
  List.find?_isSome.2 ⟨level, List.mem_reverse.2 hlevel, hused⟩

theorem deepestTyped?_eq (h : flag.Follows above declared read.levels) :
    deepestTyped? read.levels flag.id = read.deepestUse? flag.id :=
  List.find?_congr fun level hlevel => h.typed level (List.mem_reverse.1 hlevel)

/-- What was typed last is recorded. -/
theorem exists_record_of_deepestUse? (h : flag.Follows above declared read.levels)
    (hdeepest : read.deepestUse? flag.id = some level) :
    ∃ record, level.records.get? flag.id = some record := by
  obtain ⟨hmem, hused⟩ := mem_of_deepestUse? hdeepest
  rw [← h.typed level hmem, Matches.isTyped, Option.any_eq_true] at hused
  obtain ⟨record, hrecord, -⟩ := hused
  exact ⟨record, hrecord⟩

/-- What the last level has in the end of an option that was typed is what the deepest level has. -/
theorem typed_sharedRecords_iff (h : flag.Follows above declared read.levels) (record : Match) :
    ((Globals.sharedRecords read.levels read.last).get? flag.id = some record
        ∧ record.source = .commandLine)
      ↔ ∃ level, read.deepestUse? flag.id = some level
          ∧ level.records.get? flag.id = some record := by
  have hshared : ((Globals.sharedRecords (read.levels.dropLast ++ [read.last]) read.last).get?
        flag.id = some record ∧ record.source = .commandLine)
      ↔ ∃ level, deepestTyped? (read.levels.dropLast ++ [read.last]) flag.id = some level
          ∧ level.records.get? flag.id = some record :=
    Globals.typed_shared_iff h.isGlobal
  rw [← read.levels_eq, deepestTyped?_eq h] at hshared
  exact hshared

/-- The last level ends up with its own records and those that are carried down to it. -/
theorem last_share (read : Parsed) : (Globals.share read).last
    = { read.last with records := Globals.sharedRecords read.levels read.last } := by
  obtain ⟨shared, hlevels⟩ := Globals.share_levels_concat read.levels_eq
  have hlast := congrArg List.getLast? hlevels
  rw [List.getLast?_concat, levels, List.getLast?_eq_some_getLast (List.cons_ne_nil _ _)] at hlast
  exact Option.some.inj hlast

/-- The command that runs stands at the end of what was chosen, with the records that its level ends
up with. -/
theorem resolve_share {tree : CommandTree} {last : NodeId}
    (hchain : tree.lookup read.chain = some last) :
    tree.resolve (Globals.share read) = (last,
      { read.last with records := Globals.sharedRecords read.levels read.last }) := by
  have hshared : (Globals.share read).chain.foldlM tree.child? CommandTree.root = some last := by
    rw [Globals.share_chain]
    exact hchain
  rw [CommandTree.resolve, CommandTree.descend_of_chain hshared, Prod.mk.injEq]
  exact ⟨rfl, last_share read⟩

end Parsed

/-- Under each name stands what was typed for it at the deepest level. -/
theorem Flags.reportTyped_of_get? {flags : Flags} {node : CommandNode} {read : Parsed}
    {above : Inheritance} {declared : List String} (hnames : (node.flags.map (·.name)).Nodup)
    (hfollows : ∀ flag ∈ node.flags, flag.Follows above declared read.levels)
    (hget : ∀ name value, flags.get? name = some value
      ↔ ∃ flag ∈ node.flags, flag.name = name ∧ ∃ level, read.deepestUse? flag.id = some level
        ∧ ∃ record, level.records.get? flag.id = some record ∧ record.shown = value) :
    flags.ReportTyped node read := by
  have hvalue : ∀ flag ∈ node.flags, ∀ level, read.deepestUse? flag.id = some level →
      ∃ record, level.records.get? flag.id = some record
        ∧ flags.get? flag.name
          = some (if record.values = [] then "true"
              else String.intercalate "," record.values) := by
    intro flag hflag level hdeepest
    obtain ⟨record, hrecord⟩ := Parsed.exists_record_of_deepestUse? (hfollows flag hflag) hdeepest
    exact ⟨record, hrecord,
      (hget _ _).2 ⟨flag, hflag, rfl, level, hdeepest, record, hrecord, rfl⟩⟩
  refine ⟨fun flag hflag => ?_, fun name hname => ?_, hvalue⟩
  · constructor
    · intro hsome
      obtain ⟨value, hvalue⟩ := Option.isSome_iff_exists.1 hsome
      obtain ⟨other, hother, hname, level, hdeepest, -⟩ := (hget _ _).1 hvalue
      rw [List.inj_on_of_nodup_map hnames hother hflag hname] at hdeepest
      obtain ⟨hmem, hused⟩ := Parsed.mem_of_deepestUse? hdeepest
      have hplace := hmem
      rw [read.levels_eq, List.mem_append, List.mem_singleton] at hplace
      rcases hplace with hbefore | rfl
      · -- above the last level only a global option can be typed
        have htyped := (hfollows flag hflag).typed level hmem
        have hglobal := (hfollows flag hflag).isGlobal level hbefore (htyped.trans hused)
        exact Or.inr ⟨level, hmem, hglobal, hused⟩
      · exact Or.inl hused
    · intro htyped
      have hused : ∃ level ∈ read.levels, level.used flag.id = true := by
        rcases htyped with hlast | ⟨level, hmem, -, hused⟩
        · exact ⟨read.last, List.getLast_mem _, hlast⟩
        · exact ⟨level, hmem, hused⟩
      obtain ⟨level, hmem, hused⟩ := hused
      obtain ⟨deepest, hdeepest⟩ :=
        Option.isSome_iff_exists.1 (Parsed.isSome_deepestUse? hmem hused)
      obtain ⟨record, -, hreported⟩ := hvalue flag hflag deepest hdeepest
      rw [hreported]
      rfl
  · obtain ⟨value, hvalue⟩ := Option.isSome_iff_exists.1 hname
    obtain ⟨flag, hflag, hname, -⟩ := (hget _ _).1 hvalue
    exact ⟨flag, hflag, hname⟩

/-- Exactly the options that were typed are reported, with the values of the deepest level that they
were typed at. -/
theorem Context.flags_reportTyped {command : Command} {argv : List String} {parsed : Parsed}
    (h : command.IsDistinct) (hparse : command.parse argv = .ok parsed) :
    ∃ read node, Reader.read (command.outermost argv.head?) {} argv.tail = .ok read
      ∧ parsed = Globals.share read
      ∧ (CommandTree.ofCommand command).lookup read.chain
          = some (ofParsed (CommandTree.ofCommand command) parsed).node
      ∧ (CommandTree.ofCommand command).node?
          (ofParsed (CommandTree.ofCommand command) parsed).node = some node
      ∧ (ofParsed (CommandTree.ofCommand command) parsed).flags.ReportTyped node read := by
  obtain ⟨-, read, hread, rfl⟩ := Command.parse_ok hparse
  obtain ⟨hapart, last, node, hchain, hnode, hflags, hfollows⟩ :=
    Reader.leads_of_read (CommandTree.holds_root command) handedDown_nil h.ids h.leadsApart
      (Reader.tallied_start _) hread
  have hnames := h.names node (List.mem_of_getElem? hnode)
  have hresolve := Parsed.resolve_share hchain
  have hfound : (CommandTree.ofCommand command).node?
      ((CommandTree.ofCommand command).resolve (Globals.share read)).1 = some node := by
    rw [hresolve]
    exact hnode
  rw [Context.ofParsed_eq hfound, hresolve]
  refine ⟨read, node, hread, rfl, hchain, hnode, ?_⟩
  refine Flags.reportTyped_of_get? hnames hfollows fun name value => ?_
  have hrecords := Globals.nodup_sharedRecords (hapart read.last (List.getLast_mem _)) read.levels
  refine (CommandNode.get?_explicitFlags_iff hflags hnames hrecords).trans ?_
  refine exists_congr fun flag => and_congr_right fun hflag => and_congr_right fun _ => ?_
  have htyped := Parsed.typed_sharedRecords_iff (hfollows flag hflag)
  constructor
  · rintro ⟨record, hrecord, hsource, hvalue⟩
    obtain ⟨level, hdeepest, hlevel⟩ := (htyped record).1 ⟨hrecord, hsource⟩
    exact ⟨level, hdeepest, record, hlevel, hvalue⟩
  · rintro ⟨level, hdeepest, record, hlevel, hvalue⟩
    obtain ⟨hrecord, hsource⟩ := (htyped record).2 ⟨level, hdeepest, hlevel⟩
    exact ⟨record, hrecord, hsource, hvalue⟩

/-- The values of an option that may be typed again and again stand with commas, those of an upper
level left out. A typed value counts even if it is the default, and an option without any value is
`true`. -/
theorem Context.flags_reportTyped_default_typed_again :
    let put : CommandSpec :=
      { name := "put"
        args := [{ id := "mode", long := some "mode", defaults := ["fast"] },
          { id := "level", long := some "level", defaults := ["1"] },
          { id := "color", long := some "color", count := some ⟨0, some 1⟩ }] }
    let command : Command :=
      { spec :=
          { name := "app"
            args := [{ id := "tag", long := some "tag", action := some .append
                       isGlobal := true }] }
        subcommands := [.leaf put] }
    ∃ parsed read node, command.IsDistinct
      ∧ command.parse ["app", "--tag", "x", "put", "--tag", "a", "--mode", "fast", "--tag", "b",
          "--color"] = .ok parsed
      ∧ (ofParsed (CommandTree.ofCommand command) parsed).flags.ReportTyped node read
      ∧ (ofParsed (CommandTree.ofCommand command) parsed).flags.pairs
          = [("color", "true"), ("mode", "fast"), ("tag", "a,b")] := by
  intro put command
  have hdistinct : command.IsDistinct := by decide +kernel
  obtain ⟨parsed, hparse, hpairs⟩ : ∃ parsed,
      command.parse ["app", "--tag", "x", "put", "--tag", "a", "--mode", "fast", "--tag", "b",
        "--color"] = .ok parsed
      ∧ (ofParsed (CommandTree.ofCommand command) parsed).flags.pairs
          = [("color", "true"), ("mode", "fast"), ("tag", "a,b")] :=
    Command.exists_parse (by decide +kernel)
  obtain ⟨read, node, -, -, -, -, hreport⟩ := flags_reportTyped hdistinct hparse
  exact ⟨parsed, read, node, hdistinct, hparse, hreport, hpairs⟩

end CommandTelemetry
