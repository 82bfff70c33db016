import CommandTelemetry.Proofs.CommandLine.WordTheorems
import CommandTelemetry.Proofs.Invocation.ExecutedTheorems

/-!
# The reported arguments are the words that were typed

The values of positionals are collected in the order of declaration. What is reported of the command
that runs is nevertheless what was typed, in the order of typing.

* `Command.KeepsWords` is what this takes of a command definition, and `Reader.Descent.keepsWords`
  carries it down to the level that runs;
* `CommandNode.positionalArgs_shared` says that sharing global options changes no positional;
* `Context.args_reportTyped` says that exactly the words typed for positionals are reported.
-/

namespace CommandTelemetry

/-- A command definition in which a word leads to one subcommand and an id stands for one argument,
and in which no positional is global. -/
structure Command.KeepsWords (command : Command) : Prop where
  leadsApart : command.LeadsApart
  ids : command.idsApart [] = true
  notGlobal : ∀ lower ∈ command.preorder, ∀ arg ∈ lower.spec.positionals, arg.isGlobal = false

instance (command : Command) : Decidable command.KeepsWords :=
  decidable_of_iff
    (command.LeadsApart ∧ command.idsApart [] = true
      ∧ ∀ lower ∈ command.preorder, ∀ arg ∈ lower.spec.positionals, arg.isGlobal = false)
    ⟨fun ⟨hleads, hids, hglobal⟩ => ⟨hleads, hids, hglobal⟩,
      fun ⟨hleads, hids, hglobal⟩ => ⟨hleads, hids, hglobal⟩⟩

/-! ## The level that runs -/

namespace HandedDown

variable {above : Inheritance} {declared : List String} {globals : List FlagSpec}
  {command : Command} {calledBy : Option String} {arg : Arg}

/-- Where only options are handed down, the positionals of a level are its own. -/
theorem positionals_eq (hoptions : ∀ arg ∈ above.globals, arg.isPositional = false) :
    (Level.ofCommand calledBy above command).positionals = command.spec.positionals := by
  have hinherited : (above.globals.filter fun old =>
      command.spec.args.all (·.id ≠ old.id)).filter (·.isPositional) = [] := by
    refine List.filter_eq_nil_iff.2 fun old hold => ?_
    rw [hoptions old (List.mem_of_mem_filter hold)]
    exact Bool.false_ne_true
  have hflag : ∀ (has : Bool) (flag : Arg), flag.isPositional = false →
      (if has then [flag] else []).filter (·.isPositional) = [] := by
    intro has flag hoption
    cases has with
    | true => simp [hoption]
    | false => rfl
  show (Level.argsOf above command.spec).filter (·.isPositional) = _
  rw [Level.argsOf, List.filter_append, List.filter_append, List.filter_append, hinherited,
    hflag _ _ rfl, hflag _ _ rfl, List.append_nil, List.append_nil, List.append_nil]
  rfl

/-- The positionals of a consistent level keep their words. -/
theorem keepsWords (h : HandedDown above declared globals) (hids : (declared ++ command.ids).Nodup)
    (hoptions : ∀ arg ∈ above.globals, arg.isPositional = false)
    (hconsistent : (Level.ofCommand calledBy above command).isConsistent = true) :
    (Level.ofCommand calledBy above command).KeepsWords where
  apart := by
    rw [positionals_eq hoptions]
    exact (List.Nodup.of_append_right hids).sublist (List.filter_sublist.map _)
  alone arg harg other hother hoption hvalues := by
    rw [positionals_eq hoptions] at harg
    obtain ⟨hown, hpositional⟩ := List.mem_filter.1 harg
    -- the automatic flags show a page and take no values, so this argument is none of them
    have hknown : Known above command other := by
      refine h.known_of_mem hids hother
        (fun arg => !arg.effectiveAction.shows || arg.takesValues) ?_ rfl rfl
      rcases hvalues with hshows | htakes
      · simp [hshows]
      · simp [htakes]
    intro hsame
    rw [h.eq_of_id hids hknown (Or.inl hown) hsame, hpositional] at hoption
    cases hoption
  uncounted arg harg hcount := by
    have hkeeps := Level.keepsValues_of_isConsistent hconsistent harg
    rw [hcount] at hkeeps
    cases hkeeps

/-- The id of an own positional is none of those that are global. -/
theorem positional_not_global (h : HandedDown above declared globals)
    (hids : (declared ++ command.ids).Nodup) (harg : arg ∈ command.spec.args)
    (hglobal : arg.isGlobal = false) :
    arg.id ∉ (Level.ofCommand calledBy above command).globals.map (·.id) := by
  intro hmem
  obtain ⟨other, hother, hsame⟩ := List.mem_map.1 hmem
  obtain ⟨hother, hglobalOther⟩ := List.mem_filter.1 hother
  have hknown := h.known_of_mem hids hother (·.isGlobal) hglobalOther rfl rfl
  rw [h.eq_of_id hids hknown (Or.inl harg) hsame, hglobal] at hglobalOther
  cases hglobalOther

/-- What is global at a level was declared on the way to it. -/
theorem mem_of_global (h : HandedDown above declared globals)
    (hids : (declared ++ command.ids).Nodup) {id : String}
    (hid : id ∈ (Level.ofCommand calledBy above command).globals.map (·.id)) :
    id ∈ declared ++ command.ids := by
  obtain ⟨arg, harg, rfl⟩ := List.mem_map.1 hid
  obtain ⟨harg, hglobal⟩ := List.mem_filter.1 harg
  exact h.id_mem (h.known_of_mem hids harg (·.isGlobal) hglobal rfl rfl)

/-- Only options go on to a subcommand if no positional is global. -/
theorem options_below {sub : Command} (h : HandedDown above declared globals)
    (hids : (declared ++ command.ids).Nodup)
    (hhelp : (Level.ofCommand none above command).isHelp sub = false)
    (hoptions : ∀ arg ∈ above.globals, arg.isPositional = false)
    (hglobal : ∀ arg ∈ command.spec.positionals, arg.isGlobal = false) :
    ∀ arg ∈ (command.handsOn above sub).globals, arg.isPositional = false := by
  intro arg harg
  obtain ⟨hown | hold, hglobalArg⟩ := (h.mem_handsOn_iff hids hhelp).1 harg
  · apply eq_false_of_ne_true
    intro hpositional
    rw [hglobal arg (List.mem_filter.2 ⟨hown, hpositional⟩)] at hglobalArg
    cases hglobalArg
  · exact hoptions arg hold

end HandedDown

namespace Reader

variable {calledBy : Option String} {above : Inheritance} {declared : List String}
  {globals : List FlagSpec} {command : Command} {progress last : Progress} {read : Parsed}
  {inner : Level}

/-- The level that runs keeps the words of its positionals, of which none is global anywhere. -/
theorem Descent.keepsWords (h : Descent calledBy above command progress read inner last)
    (hdown : HandedDown above declared globals) (hids : command.idsApart declared = true)
    (hoptions : ∀ arg ∈ above.globals, arg.isPositional = false)
    (hglobal : ∀ lower ∈ command.preorder, ∀ arg ∈ lower.spec.positionals, arg.isGlobal = false)
    (hconsistent : inner.isConsistent = true) :
    inner.KeepsWords ∧ inner.positionals = inner.spec.positionals
      ∧ ∀ arg ∈ inner.positionals, arg.id ∉ declared
        ∧ ∀ level ∈ read.levels, arg.id ∉ level.globalIds := by
  induction h generalizing declared globals with
  | @ended _ _ command _ _ top _ hfinish =>
    have hidsHere := (Command.idsApart_iff.1 hids).1
    have hhere := Command.mem_preorder_self command
    refine ⟨hdown.keepsWords hidsHere hoptions hconsistent,
      HandedDown.positionals_eq hoptions, fun arg harg => ?_⟩
    rw [HandedDown.positionals_eq hoptions] at harg
    have hown : arg ∈ command.spec.args := List.mem_of_mem_filter harg
    refine ⟨fun hmem => ?_, fun level hlevel => ?_⟩
    · exact List.disjoint_of_nodup_append hidsHere hmem (List.mem_map_of_mem hown)
    · rw [List.mem_singleton.1 hlevel, finish_globalIds hfinish]
      exact hdown.positional_not_global hidsHere hown (hglobal command hhere arg harg)
  | @descended _ _ above command sub _ _ _ _ top _ _ _ hsub hhelp _ _ hfinish ih =>
    obtain ⟨hidsHere, hidsBelow⟩ := Command.idsApart_iff.1 hids
    have hmem : sub ∈ command.subcommands := List.mem_of_find?_eq_some hsub
    have hbelow := Command.preorder_subset hmem
    have hoptionsBelow := hdown.options_below hidsHere hhelp hoptions
      (hglobal command (Command.mem_preorder_self command))
    obtain ⟨hkeeps, hpositionals, hnew⟩ := ih (hdown.below hidsHere hhelp) (hidsBelow sub hmem)
      hoptionsBelow (fun lower hlower => hglobal lower (hbelow lower hlower)) hconsistent
    refine ⟨hkeeps, hpositionals, fun arg harg => ?_⟩
    -- what is declared down there is declared nowhere above, so it is not global there either
    obtain ⟨hdeclared, hlevels⟩ := hnew arg harg
    refine ⟨fun hid => hdeclared (List.mem_append_left _ hid),
      List.forall_mem_cons.2 ⟨fun hid => hdeclared ?_, hlevels⟩⟩
    rw [finish_globalIds hfinish] at hid
    exact hdown.mem_of_global hidsHere hid

end Reader

/-! ## What is reported -/

/-- What gives nothing may be left out. -/
theorem flatMap_filter_of_nil {α β : Type} {p : α → Bool} {f : α → List β} {items : List α}
    (h : ∀ item ∈ items, p item = false → f item = []) :
    (items.filter p).flatMap f = items.flatMap f := by
  induction items with
  | nil => rfl
  | cons first rest ih =>
    rw [List.forall_mem_cons] at h
    rw [List.filter_cons, List.flatMap_cons, ← ih h.2]
    cases hp : p first with
    | true => rw [if_pos rfl, List.flatMap_cons]
    | false =>
      rw [if_neg Bool.false_ne_true, h.1 hp]
      rfl

namespace CommandNode

variable {level : Level} {top : LevelRecord} {node : CommandNode}

theorem typedValues_of_not_typed {records : Matches} {id : String}
    (h : records.isTyped id = false) : typedValues records id = [] := by
  rw [Matches.isTyped, ← Option.isSome_filter, Option.isSome_eq_false_iff,
    Option.isNone_iff_eq_none] at h
  rw [typedValues, h]
  rfl

/-- A positional that shows a page has no values, so a node may do without it. -/
theorem positionalArgs_of_finish (hlevel : level.KeepsWords)
    (hpositionals : level.positionals = level.spec.positionals) (htop : top.Tallied level)
    (hnode : node.positionals = level.spec.wordIds) :
    node.positionalArgs top.records
      = level.positionals.flatMap fun arg => typedValues top.records arg.id := by
  rw [positionalArgs, hnode, CommandSpec.wordIds, ← hpositionals, List.flatMap_map]
  refine flatMap_filter_of_nil fun arg harg hshows => typedValues_of_not_typed ?_
  refine eq_false_of_ne_true fun htyped => ?_
  obtain ⟨other, hother, hsame, hhides⟩ := htop.declared arg.id htyped
  have hpage : arg.effectiveAction.shows = true :=
    Arg.effectiveAction_of_asksForPage ((Bool.not_eq_false' _).mp hshows)
  cases hpositional : other.isPositional with
  | true =>
    have hwords : other ∈ level.positionals := List.mem_filter.2 ⟨hother, hpositional⟩
    rw [hlevel.eq_of_id harg hwords hsame, hpage] at hhides
    cases hhides
  | false => exact hlevel.alone arg harg other hother hpositional (Or.inl hhides) hsame

/-- Sharing global options leaves the positionals alone, if none of them is global. -/
theorem positionalArgs_shared {spec : CommandSpec} {levels : List LevelRecord}
    (hnode : node.positionals = spec.wordIds)
    (hglobal : ∀ arg ∈ spec.positionals, ∀ level ∈ levels, arg.id ∉ level.globalIds) :
    node.positionalArgs (Globals.sharedRecords levels top) = node.positionalArgs top.records := by
  refine List.flatMap_congr fun id hid => Reader.typedValues_congr ?_
  rw [hnode, CommandSpec.wordIds] at hid
  obtain ⟨arg, harg, rfl⟩ := List.mem_map.1 hid
  exact Globals.get?_sharedRecords_of_not_mem (hglobal arg (List.mem_of_mem_filter harg)) top

end CommandNode

/-- Exactly the words that were typed for positionals of the command that runs are reported, in the
order of typing. -/
theorem Context.args_reportTyped {command : Command} {argv : List String} {parsed : Parsed}
    (h : command.KeepsWords) (hparse : command.parse argv = .ok parsed) :
    ∃ inner last read node, ∃ typed : List (Arg × String),
      Reader.innermost (command.outermost argv.head?) {} argv.tail = (inner, last)
      ∧ Reader.read (command.outermost argv.head?) {} argv.tail = .ok read
      ∧ parsed = Globals.share read
      ∧ Reader.finish inner last false = .ok read.last
      ∧ (CommandTree.ofCommand command).lookup parsed.chain
          = some (ofParsed (CommandTree.ofCommand command) parsed).node
      ∧ (CommandTree.ofCommand command).node?
          (ofParsed (CommandTree.ofCommand command) parsed).node = some node
      ∧ node.positionals = inner.spec.wordIds
      ∧ typed.map (fun pair => (pair.1.id, pair.2)) = read.last.words
      ∧ (∀ pair ∈ typed, pair.1 ∈ inner.spec.positionals)
      ∧ (typed.map (·.2)).Sublist argv.tail
      ∧ (ofParsed (CommandTree.ofCommand command) parsed).args
          = typed.flatMap fun pair => Reader.splitValue pair.1 pair.2 := by
  obtain ⟨inner, last, read, hinner, hread, rfl, hdescent⟩ :=
    Reader.exists_descent_of_parse h.leadsApart hparse
  have hmoves := hdescent.moves .refl
  have hfinish := hdescent.finish_last
  have hconsistent := Reader.isConsistent_innermost hparse
  rw [hinner] at hconsistent
  obtain ⟨hkeeps, hpositionals, hnew⟩ := hdescent.keepsWords handedDown_nil h.ids
    (fun arg harg => by cases harg) h.notGlobal hconsistent
  -- the words of the level that runs, and what its records have of them
  have htallied := Reader.tallied_of_finish (Reader.words_kept_of_moves hkeeps hmoves).1 hfinish
  obtain ⟨typed, htyped, hmem, hwords, hvalues⟩ := Reader.words_of_finish hkeeps hmoves hfinish
  obtain ⟨id, lineage, node, -, -, hchain, hnode, hnodeWords, -⟩ := hdescent.node h.leadsApart
  have hresolve := Parsed.resolve_share hchain
  have hfound : (CommandTree.ofCommand command).node?
      ((CommandTree.ofCommand command).resolve (Globals.share read)).1 = some node := by
    rw [hresolve]
    exact hnode
  rw [Context.ofParsed_eq hfound, hresolve, Globals.share_chain]
  refine ⟨inner, last, read, node, typed, hinner, hread, rfl, hfinish, hchain, hnode, hnodeWords,
    htyped, fun pair hpair => ?_, ?_, ?_⟩
  · rw [← hpositionals]
    exact hmem pair hpair
  · have hsame : typed.map (·.2) = read.last.words.map (·.2) := by
      rw [← htyped, List.map_map]
      rfl
    have hsublist := Reader.words_sublist (command.outermost argv.head?) {} argv.tail
    rw [hinner] at hsublist
    rw [hsame, hwords]
    exact hsublist
  · have hshared : node.positionalArgs (Globals.sharedRecords read.levels read.last)
        = node.positionalArgs read.last.records :=
      CommandNode.positionalArgs_shared hnodeWords fun arg harg =>
        (hnew arg (hpositionals ▸ harg)).2
    show node.positionalArgs (Globals.sharedRecords read.levels read.last) = _
    rw [hshared, CommandNode.positionalArgs_of_finish hkeeps hpositionals htallied hnodeWords]
    exact hvalues

/-- Words among options and behind two dashes are reported in the order of typing. -/
theorem Context.args_reportTyped_among_options :
    let put : CommandSpec :=
      { name := "put", aliases := ["p"]
        args := [{ id := "target" },
          { id := "tags", count := some ⟨0, none⟩, delimiter := some ',' },
          { id := "mode", long := some "mode", defaults := ["fast"] }] }
    let command : Command := { spec := { name := "app" }, subcommands := [.leaf put] }
    ∃ parsed, ∃ typed : List (Arg × String), command.KeepsWords
      ∧ command.parse ["app", "p", "a", "--mode", "m", "b,c", "--", "--d"] = .ok parsed
      ∧ typed.map (·.2) = ["a", "b,c", "--d"]
      ∧ (ofParsed (CommandTree.ofCommand command) parsed).args
        = typed.flatMap (fun pair => Reader.splitValue pair.1 pair.2)
      ∧ (ofParsed (CommandTree.ofCommand command) parsed).args = ["a", "b", "c", "--d"] := by
  intro put command
  have hkeeps : command.KeepsWords := by decide +kernel
  obtain ⟨parsed, hparse, hargs⟩ : ∃ parsed,
      command.parse ["app", "p", "a", "--mode", "m", "b,c", "--", "--d"] = .ok parsed
      ∧ (ofParsed (CommandTree.ofCommand command) parsed).args = ["a", "b", "c", "--d"] :=
    Command.exists_parse (by decide +kernel)
  obtain ⟨same, hsame, hwords⟩ : ∃ same, Reader.read (command.outermost (some "app")) {}
      ["p", "a", "--mode", "m", "b,c", "--", "--d"] = .ok same
      ∧ same.last.words = [("target", "a"), ("tags", "b,c"), ("tags", "--d")] :=
    ⟨_, rfl, by decide +kernel⟩
  obtain ⟨_, _, read, _, typed, -, hread, -, -, -, -, -, htyped, -, -, hreported⟩ :=
    args_reportTyped hkeeps hparse
  have hread : Except.ok same = Except.ok read := hsame.symm.trans hread
  have htexts : typed.map (·.2) = read.last.words.map (·.2) := by
    rw [← htyped, List.map_map]
    rfl
  rw [← Except.ok.inj hread, hwords] at htexts
  exact ⟨parsed, typed, hkeeps, hparse, htexts, hreported, hargs⟩

end CommandTelemetry
