import CommandTelemetry.Proofs.Command.DistinctCommandTheorems
import CommandTelemetry.Proofs.Invocation.WalkTheorems

/-!
# Where the walk may stray

The walk through raw arguments reads less than a command line does, so it may end above the command
that runs. It ends on the way to this command as long as it passes over the values that reading
takes: where options take one value or none, positionals take nothing with a dash, and no cluster of
several letters ends with an option that takes the next argument.

* `CommandTree.PlainAt` ties a place of the tree to a level, and `CommandTree.PlainAt.follows` says
  what the walk does with an argument that reading keeps at that level;
* `CommandTree.PlainAt.walk_on_way` is the same for all arguments from some level on;
* `CommandTree.find_on_way` says it of whole command lines, and
  `CommandTree.find_strays_after_cluster` that the walk strays after such a cluster.
-/

namespace CommandTelemetry

/-! ## Plain definitions -/

/-- A positional that takes nothing with a dash, or a simple option. -/
def Arg.IsPlain (arg : Arg) : Prop :=
  (arg.isPositional = true → arg.allowsHyphens = false ∧ arg.allowsNegativeNumbers = false)
    ∧ (arg.isPositional = false → arg.IsSimple)
deriving Decidable

/-- A command definition of plain arguments, where every word leads to one subcommand at most and
none looks like an option. -/
structure Command.IsPlain (command : Command) : Prop where
  leadsApart : command.LeadsApart
  noDash : ∀ lower ∈ command.preorder, ∀ sub ∈ lower.subcommands, ∀ word ∈ sub.spec.words,
    word.toList.head? ≠ some '-'
  args : ∀ lower ∈ command.preorder, ∀ arg ∈ lower.spec.args, arg.IsPlain

/-- Options of a node that share their name or their letter are the same. -/
structure CommandNode.OptionsApart (node : CommandNode) : Prop where
  names : ∀ first ∈ node.flags, ∀ second ∈ node.flags, first.name = second.name → first = second
  letters : ∀ first ∈ node.flags, ∀ second ∈ node.flags, first.short = second.short →
    first.short = none ∨ first = second

instance (command : Command) : Decidable command.IsPlain :=
  decidable_of_iff
    (command.LeadsApart
      ∧ (∀ lower ∈ command.preorder, ∀ sub ∈ lower.subcommands, ∀ word ∈ sub.spec.words,
        word.toList.head? ≠ some '-')
      ∧ ∀ lower ∈ command.preorder, ∀ arg ∈ lower.spec.args, arg.IsPlain)
    ⟨fun ⟨hleads, hdash, hargs⟩ => ⟨hleads, hdash, hargs⟩,
      fun ⟨hleads, hdash, hargs⟩ => ⟨hleads, hdash, hargs⟩⟩

instance (node : CommandNode) : Decidable node.OptionsApart :=
  decidable_of_iff
    ((∀ first ∈ node.flags, ∀ second ∈ node.flags, first.name = second.name → first = second)
      ∧ ∀ first ∈ node.flags, ∀ second ∈ node.flags, first.short = second.short →
        first.short = none ∨ first = second)
    ⟨fun ⟨hnames, hletters⟩ => ⟨hnames, hletters⟩, fun ⟨hnames, hletters⟩ => ⟨hnames, hletters⟩⟩

theorem Command.IsPlain.ofSubcommand {command sub : Command} (h : command.IsPlain)
    (hsub : sub ∈ command.subcommands) : sub.IsPlain where
  leadsApart := h.leadsApart.ofSubcommand hsub
  noDash lower hlower := h.noDash lower (preorder_subset hsub lower hlower)
  args lower hlower := h.args lower (preorder_subset hsub lower hlower)

theorem CommandNode.find?_eq_some {node : CommandNode} {flag : FlagSpec} {p : FlagSpec → Bool}
    (hflag : flag ∈ node.flags) (hp : p flag = true)
    (hunique : ∀ other ∈ node.flags, p other = true → other = flag) :
    node.flags.find? p = some flag := by
  cases hfind : node.flags.find? p with
  | none => exact absurd hp (List.find?_eq_none.1 hfind flag hflag)
  | some found =>
    have hfound := List.find?_some hfind
    rw [hunique found (List.mem_of_find?_eq_some hfind) hfound]

/-! ## One argument -/

namespace CommandTree

open HandedDown (Known)

variable {tree : CommandTree} {above : Inheritance} {id : NodeId} {command sub : Command}
  {arg : Arg} {calledBy : Option String}

/-- A place of the tree and a level that are reached by the same words, in a plain definition. -/
structure PlainAt (tree : CommandTree) (above : Inheritance) (id : NodeId) (command : Command) :
    Prop where
  plain : command.IsPlain
  globals : ∀ arg ∈ above.globals, arg.IsPlain
  options : ∀ node ∈ tree.nodes, node.OptionsApart
  place : ∃ declared globals parent, command.idsApart declared = true
    ∧ HandedDown above declared globals ∧ tree.Holds parent globals id command

theorem PlainAt.isPlain (h : tree.PlainAt above id command)
    (harg : arg ∈ (Level.ofCommand calledBy above command).args) : arg.IsPlain := by
  obtain ⟨declared, globals, parent, hids, hdown, -⟩ := h.place
  have hnew := hdown.new (Command.idsApart_iff.1 hids).1
  rcases (Level.mem_argsOf_iff hnew).1 harg with hown | hold | ⟨-, rfl⟩ | ⟨-, rfl⟩
  · exact h.plain.args command (Command.mem_preorder_self command) arg hown
  · exact h.globals arg hold
  · decide
  · decide

theorem PlainAt.plainLevel (h : tree.PlainAt above id command) :
    Reader.PlainLevel (Level.ofCommand calledBy above command) where
  noExternal := h.plain.leadsApart.allowsExternal
  noDash arg harg := by
    obtain ⟨hmem, hpositional⟩ := List.mem_filter.1 harg
    exact (h.isPlain hmem).1 hpositional
  idsApart arg harg option hoption hisOption htakes hsame := by
    obtain ⟨declared, globals, parent, hids, hdown, -⟩ := h.place
    have hidsHere := (Command.idsApart_iff.1 hids).1
    obtain ⟨hmem, hpositional⟩ := List.mem_filter.1 harg
    -- the automatic flags are no positionals and take no values
    have hknown := hdown.known_of_mem hidsHere hmem (·.isPositional) hpositional rfl rfl
    have hknownOption := hdown.known_of_mem hidsHere hoption (·.takesValues) htakes rfl rfl
    rw [hdown.eq_of_id hidsHere hknown hknownOption hsame, hisOption] at hpositional
    cases hpositional

/-- An option of a level that shows nothing is found in the tree by what no other option shares. -/
theorem PlainAt.node_find? (h : tree.PlainAt above id command)
    (harg : arg ∈ (Level.ofCommand calledBy above command).args)
    (hoption : arg.isPositional = false) (hpage : arg.asksForPage = false)
    {p : FlagSpec → Bool} (hp : p (FlagSpec.ofArg arg) = true)
    (hunique : ∀ node : CommandNode, node.OptionsApart → FlagSpec.ofArg arg ∈ node.flags →
      ∀ other ∈ node.flags, p other = true → other = FlagSpec.ofArg arg) :
    (tree.node? id).bind (fun node => node.flags.find? p) = some (FlagSpec.ofArg arg) := by
  obtain ⟨declared, globals, parent, hids, hdown, hholds⟩ := h.place
  obtain ⟨node, hnode, hof⟩ := hholds.node
  have hidsHere := (Command.idsApart_iff.1 hids).1
  have hplain : (!arg.asksForPage) = true := by
    rw [hpage]
    rfl
  have hknown := hdown.known_of_mem hidsHere harg (!·.asksForPage) hplain rfl rfl
  have hflag : FlagSpec.ofArg arg ∈ node.flags := by
    rw [hof.flags, hdown.mem_flags hidsHere]
    exact ⟨arg, hknown, by rw [Scope.isFlag, ← Arg.asksForPage, hpage, hoption]; rfl, rfl⟩
  rw [hnode, Option.bind_some]
  exact CommandNode.find?_eq_some hflag hp
    (hunique node (h.options node (List.mem_of_getElem? hnode)) hflag)

/-- An option that is found by its name is passed over as the tree says of it. -/
theorem PlainAt.passOption_long? (h : tree.PlainAt above id command) {name : String}
    (hlong : (Level.ofCommand calledBy above command).long? name = some arg)
    (hpage : arg.asksForPage = false) : passOption ((tree.node? id).bind (·.long? name))
      = if (FlagSpec.ofArg arg).takesValue then .passWithValue else .pass := by
  have harg := Level.mem_of_long? hlong
  have hoption := Level.isPositional_of_long? hlong
  have hname : (FlagSpec.ofArg arg).name = name := by
    rcases Level.long_of_long? hlong with hname | halias
    · rw [FlagSpec.ofArg, hname, Option.getD_some]
    · rw [((h.isPlain harg).2 hoption).1] at halias
      cases halias
  have hfind := h.node_find? harg hoption hpage (decide_eq_true hname)
    fun node hnode hflag other hother hp => by
      have hother' : other.name = name := of_decide_eq_true hp
      exact hnode.names other hother _ hflag (hother'.trans hname.symm)
  have hnode : (tree.node? id).bind (·.long? name) = some (FlagSpec.ofArg arg) := hfind
  rw [hnode, passOption, Option.any_some]

theorem PlainAt.passOption_short? (h : tree.PlainAt above id command) {letter : Char}
    (hshort : (Level.ofCommand calledBy above command).short? letter = some arg)
    (hpage : arg.asksForPage = false) : passOption ((tree.node? id).bind (·.short? letter))
      = if (FlagSpec.ofArg arg).takesValue then .passWithValue else .pass := by
  have hletter : (FlagSpec.ofArg arg).short = some letter := Level.short_of_short? hshort
  have hfind := h.node_find? (Level.mem_of_short? hshort) (Level.isPositional_of_short? hshort)
    hpage (decide_eq_true hletter) fun node hnode hflag other hother hp => by
      have hother' : other.short = some letter := of_decide_eq_true hp
      refine (hnode.letters other hother _ hflag (hother'.trans hletter.symm)).resolve_left ?_
      rw [hother']
      exact Option.some_ne_none letter
  have hnode : (tree.node? id).bind (·.short? letter) = some (FlagSpec.ofArg arg) := hfind
  rw [hnode, passOption, Option.any_some]

/-- Going down by a word leads to the same child as going down by the name of its command. -/
theorem PlainAt.child (h : tree.PlainAt above id command) {word : String}
    (hsub : command.subcommand? word = some sub)
    (hhelp : (Level.ofCommand none above command).isHelp sub = false) :
    ∃ child, tree.stride id word = .descend child ∧ tree.child? id sub.spec.name = some child
      ∧ tree.PlainAt (command.handsOn above sub) child sub := by
  obtain ⟨declared, globals, parent, hids, hdown, hholds⟩ := h.place
  obtain ⟨hidsHere, hidsBelow⟩ := Command.idsApart_iff.1 hids
  obtain ⟨child, hword, hname, hchild⟩ := h.plain.leadsApart.child? hholds hsub
  have hmem : sub ∈ command.subcommands := List.mem_of_find?_eq_some hsub
  have hdash : word.toList.head? ≠ some '-' := by
    unfold Command.subcommand? at hsub
    have hfound := List.find?_some hsub
    exact h.plain.noDash command (Command.mem_preorder_self command) sub hmem word
      (CommandSpec.answersTo_iff.1 hfound)
  refine ⟨child, ?_, hname, h.plain.ofSubcommand hmem, fun arg harg => ?_, h.options,
    declared ++ command.ids, _, some id, hidsBelow sub hmem, hdown.below hidsHere hhelp, hchild⟩
  · rw [stride, Token.read_word hdash]
    dsimp only
    rw [hword]
  · obtain ⟨hknown, -⟩ := (hdown.mem_handsOn_iff hidsHere hhelp).1 harg
    have harg : arg ∈ (Level.ofCommand none above command).args :=
      hdown.mem_of_known hidsHere hknown
    exact h.isPlain harg

/-- Where reading is idle, the walk ends at an argument or does with it what reading does. -/
theorem PlainAt.follows {progress next : Progress} {argument : String} {following : Option String}
    (h : tree.PlainAt above id command) (hidle : Reader.Idle progress)
    (hturn : Reader.turn (Level.ofCommand calledBy above command) progress argument following
      = .ok (.stay next))
    (hclosed : (Token.read argument).isSeveralLetters = true → next.awaitsValue = false) :
    tree.stride id argument = .halt
      ∨ tree.Follows id argument next
        ∧ Reader.Guarded (Level.ofCommand calledBy above command) next := by
  have hlevel : Reader.PlainLevel (Level.ofCommand calledBy above command) := h.plainLevel
  obtain htaken | ⟨htoken, hcommand⟩ := Reader.kept_of_idle hlevel hidle hturn
  · -- the token is all that the walk looks at
    generalize htoken : Token.read argument = token at htaken hclosed
    cases htaken with
    | terminator => exact Or.inl (by rw [stride, htoken])
    | @long name value arg _ hlong hmet =>
      have hmem := Level.mem_of_long? hlong
      have hoption := Level.isPositional_of_long? hlong
      refine Or.inr ⟨?_, Reader.guarded_of_met hlevel hmem hoption hmet⟩
      refine follows_of_met hidle ((h.isPlain hmem).2 hoption) hoption hmet fun hpage => ?_
      rw [stride, htoken]
      cases value with
      | some value => simp
      | none => simp [h.passOption_long? hlong hpage]
    | @letter letter arg _ hshort hmet =>
      have hmem := Level.mem_of_short? hshort
      have hoption := Level.isPositional_of_short? hshort
      refine Or.inr ⟨?_, Reader.guarded_of_met hlevel hmem hoption hmet⟩
      refine follows_of_met hidle ((h.isPlain hmem).2 hoption) hoption hmet fun hpage => ?_
      rw [stride, htoken]
      simp [h.passOption_short? hshort hpage]
    | letters hcluster =>
      have hsimple : ∀ arg ∈ (Level.ofCommand calledBy above command).args,
          arg.isPositional = false → arg.IsSimple := fun arg harg => (h.isPlain harg).2
      refine Or.inr ⟨?_, Reader.guarded_of_readCluster hlevel hcluster⟩
      obtain hdoomed | hnext | ⟨arg, hwaiting⟩ := Reader.readCluster_idle hsimple hidle hcluster
      · exact .doomed hdoomed
      · exact .pass hnext (by rw [stride, htoken])
      · -- the walk passes over a cluster as if it had no value, so none may follow
        have hawaits := hclosed rfl
        rw [Progress.awaitsValue, hwaiting.collecting] at hawaits
        cases hawaits
  · -- a word for a positional names no child either
    obtain ⟨declared, globals, parent, -, -, hholds⟩ := h.place
    have hsub : command.subcommand? argument = none := by
      unfold Level.command? Level.commands at hcommand
      rw [List.find?_append, Option.or_eq_none_iff] at hcommand
      exact hcommand.1
    refine Or.inl ?_
    rw [stride, htoken]
    dsimp only
    rw [hholds.child?_of_none hsub]

/-! ## Whole command lines -/

/-- A node is reached by going down a part of the way that was chosen. -/
def OnWay (tree : CommandTree) (start : NodeId) (chain : List String) (id : NodeId) : Prop :=
  ∃ words, words <+: chain ∧ words.foldlM tree.child? start = some id

theorem onWay_start (tree : CommandTree) (start : NodeId) (chain : List String) :
    tree.OnWay start chain start :=
  ⟨[], List.nil_prefix, rfl⟩

theorem OnWay.cons {start child id : NodeId} {name : String} {chain : List String}
    (h : tree.OnWay child chain id) (hchild : tree.child? start name = some child) :
    tree.OnWay start (name :: chain) id := by
  obtain ⟨words, hprefix, hwords⟩ := h
  refine ⟨name :: words, List.cons_prefix_cons.2 ⟨rfl, hprefix⟩, ?_⟩
  rw [List.foldlM_cons, hchild]
  exact hwords

/-- From every level on the walk stays on the way that was chosen. After an option that waits for
its value, the walk has passed over that value. -/
theorem PlainAt.walk_on_way {progress : Progress} {arguments : List String} {parsed : Parsed}
    (h : tree.PlainAt above id command)
    (hread : Reader.read (Level.ofCommand calledBy above command) progress arguments = .ok parsed)
    (hclosed : Reader.ClustersClosed (Level.ofCommand calledBy above command) progress arguments) :
    (Reader.Idle progress → tree.OnWay id parsed.chain (tree.walk id arguments))
    ∧ ∀ arg, Reader.Waiting progress arg →
      Reader.Guarded (Level.ofCommand calledBy above command) progress →
      tree.OnWay id parsed.chain (tree.walk id arguments.tail) := by
  induction arguments generalizing above id command calledBy progress parsed with
  | nil => exact ⟨fun _ => onWay_start tree id _, fun _ _ _ => onWay_start tree id _⟩
  | cons argument rest ih =>
    have hlevel : Reader.PlainLevel (Level.ofCommand calledBy above command) := h.plainLevel
    constructor
    · intro hidle
      obtain ⟨next, hturn, -, hrest⟩ | ⟨sub, below, top, hturn, hcommand, hhelp, hbelow, -, rfl⟩ |
        ⟨_, _, -, hexternal, -⟩ := Reader.read_cons_ok hread
      · -- the argument is kept at the level
        obtain ⟨hletters, hclosed⟩ := hclosed.stay hturn
        obtain hhalt | ⟨hfollows, hguarded⟩ := h.follows hidle hturn hletters
        · rw [walk_cons, hhalt]
          exact onWay_start tree id _
        cases hfollows with
        | doomed hdoomed => exact absurd hrest (Reader.read_doomed_of_plain hdoomed hguarded)
        | halt _ hstride =>
          rw [walk_cons, hstride]
          exact onWay_start tree id _
        | pass hnext hstride =>
          rw [walk_cons, hstride]
          exact (ih h hrest hclosed).1 hnext
        | passWithValue hwaiting hstride =>
          rw [walk_cons, hstride]
          exact (ih h hrest hclosed).2 _ hwaiting hguarded
      · -- the argument names a subcommand
        have hsub := Level.subcommand?_of_command? hcommand hhelp
        obtain ⟨child, hstride, hname, hchild⟩ := h.child hsub hhelp
        have hbelowName : below.top.command = sub.spec.name := Reader.read_command hbelow
        have hway := (ih hchild hbelow (hclosed.descend hturn)).1 ⟨rfl, rfl⟩
        have hbelowChild : tree.child? id below.top.command = some child := by
          rw [hbelowName]
          exact hname
        rw [walk_cons, hstride]
        exact hway.cons hbelowChild
      · rw [hlevel.noExternal] at hexternal
        cases hexternal
    · intro arg hwaiting hguarded
      obtain ⟨value, behind, next, harguments, hidle, hturn, hrest⟩ :=
        Reader.read_waiting_of_plain hlevel hwaiting hguarded hread
      obtain ⟨rfl, rfl⟩ := List.cons_eq_cons.1 harguments
      exact (ih h hrest (hclosed.stay hturn).2).1 hidle

end CommandTree

/-- The walk ends on the way to the command that runs. -/
theorem CommandTree.find_on_way {command : Command} {argv : List String} {parsed : Parsed}
    (hplain : command.IsPlain) (hids : command.idsApart [] = true)
    (hoptions : ∀ node ∈ (ofCommand command).nodes, node.OptionsApart)
    (hclosed : command.ClustersClosed argv) (hparse : command.parse argv = .ok parsed) :
    (ofCommand command).OnWay root parsed.chain ((ofCommand command).find argv.tail) := by
  obtain ⟨-, unshared, hread, rfl⟩ := Command.parse_ok hparse
  have hplace : (ofCommand command).PlainAt {} root command :=
    ⟨hplain, fun _ harg => (by cases harg), hoptions, [], [], none, hids, handedDown_nil,
      holds_root command⟩
  rw [Globals.share_chain]
  exact (hplace.walk_on_way hread hclosed).1 ⟨rfl, rfl⟩

/-- A word for a positional ends the walk, and a value called like a subcommand does not. -/
theorem CommandTree.find_on_way_before_positional :
    let command : Command :=
      { spec :=
          { name := "app", args := [{ id := "file" }, { id := "config", long := some "config" }] }
        subcommands := [.leaf { name := "run" }] }
    ∃ parsed, command.parse ["app", "--config", "run", "notes", "run"] = .ok parsed
      ∧ parsed.chain = ["run"]
      ∧ (ofCommand command).find ["--config", "run", "notes", "run"] = root
      ∧ (ofCommand command).OnWay root parsed.chain
          ((ofCommand command).find ["--config", "run", "notes", "run"]) := by
  intro command
  obtain ⟨parsed, hparse, hchain⟩ : ∃ parsed,
      command.parse ["app", "--config", "run", "notes", "run"] = .ok parsed
        ∧ parsed.chain = ["run"] := Command.exists_parse (by decide +kernel)
  have hplain : command.IsPlain := by decide +kernel
  have hids : command.idsApart [] = true := by decide +kernel
  have hoptions : ∀ node ∈ (ofCommand command).nodes, node.OptionsApart := by decide +kernel
  have hclosed : command.ClustersClosed ["app", "--config", "run", "notes", "run"] := by
    unfold Command.ClustersClosed Reader.ClustersClosed
    decide +kernel
  exact ⟨parsed, hparse, hchain, by decide +kernel,
    find_on_way hplain hids hoptions hclosed hparse⟩

/-- After a cluster that ends with an option which takes the next argument, the walk goes down on
the value of this option. -/
theorem CommandTree.find_strays_after_cluster :
    let command : Command :=
      { spec :=
          { name := "app"
            args := [{ id := "verbose", short := some 'v', action := some .setTrue },
              { id := "config", short := some 'c' }] }
        subcommands := [.leaf { name := "a" }] }
    command.LeadsApart ∧ ∃ parsed, command.parse ["app", "-vc", "a"] = .ok parsed
      ∧ ¬ (ofCommand command).OnWay root parsed.chain
          ((ofCommand command).find ["app", "-vc", "a"].tail) := by
  intro command
  obtain ⟨parsed, hparse, hchain⟩ : ∃ parsed,
      command.parse ["app", "-vc", "a"] = .ok parsed ∧ parsed.chain = [] :=
    Command.exists_parse (by decide +kernel)
  have hfind : (ofCommand command).find ["app", "-vc", "a"].tail = 1 := by decide +kernel
  refine ⟨by decide +kernel, parsed, hparse, ?_⟩
  rintro ⟨words, hprefix, hwords⟩
  rw [hchain, List.prefix_nil] at hprefix
  subst hprefix
  rw [hfind] at hwords
  cases hwords

end CommandTelemetry
