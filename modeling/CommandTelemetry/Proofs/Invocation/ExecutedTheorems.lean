import CommandTelemetry.Proofs.Command.ArenaTheorems
import CommandTelemetry.Proofs.Command.FlagScopeTheorems
import CommandTelemetry.Proofs.Command.PathTheorems
import CommandTelemetry.Proofs.Invocation.TypedFlagsTheorems

/-!
# The node of the command that runs

Reading finds subcommands by any of their words, and the tree is walked afterwards by their names.
Both come to the same command.

* `Reader.Descent.placed` goes down the table along with the reading, from any place of it;
* `CommandTree.resolve_reaches_innermost` says that the node which is found is the one of the level
  where the arguments ended, with the records of this level and the arguments of its command.
-/

namespace CommandTelemetry

namespace Command

variable {outermost : Command} {tree : CommandTree} {id : NodeId} {lineage : Lineage}

/-- What leads apart does so at every place. -/
theorem LeadsApart.ofPlaced (h : outermost.LeadsApart)
    (hplaced : tree.Placed outermost id lineage) : lineage.command.LeadsApart where
  words lower hlower := h.words lower (hplaced.preorder_subset lower hlower)
  noExternal lower hlower := h.noExternal lower (hplaced.preorder_subset lower hlower)

end Command

namespace Reader

variable {calledBy : Option String} {above : Inheritance} {outermost command : Command}
  {progress last : Progress} {read : Parsed} {inner : Level} {tree : CommandTree} {id : NodeId}
  {upper : List Command}

/-- The chain of names leads down the table to the command of the level that runs. -/
theorem Descent.placed (h : Descent calledBy above command progress read inner last)
    (hapart : outermost.LeadsApart) (hplaced : tree.Placed outermost id ⟨command, upper⟩) :
    ∃ reached lineage, tree.Placed outermost reached lineage
      ∧ read.chain.foldlM tree.child? id = some reached
      ∧ lineage.names = (Lineage.mk command upper).names ++ read.chain
      ∧ lineage.command.spec = inner.spec := by
  -- with every level that reading goes down, the place goes down to a child
  induction h generalizing id upper with
  | ended _ _ => exact ⟨id, _, hplaced, rfl, (List.append_nil _).symm, rfl⟩
  | @descended _ _ _ command sub _ _ _ word top read _ _ hsub _ _ hname _ ih =>
    obtain ⟨parent, hholds⟩ := hplaced.holds
    obtain ⟨child, -, hchild, hbelow⟩ := (hapart.ofPlaced hplaced).child? hholds hsub
    have hmem : sub ∈ command.subcommands := List.mem_of_find?_eq_some hsub
    have hlower : tree.Placed outermost child ⟨sub, command :: upper⟩ :=
      .child hplaced hmem (CommandTree.hasChild_of_child? hchild) hbelow
    obtain ⟨reached, lineage, hreached, hchain, hnames, hspec⟩ := ih hlower
    have hcons : (Parsed.mk top read.levels).chain = sub.spec.name :: read.chain := by
      rw [← hname]
      rfl
    refine ⟨reached, lineage, hreached, ?_, ?_, hspec⟩
    · rw [hcons, List.foldlM_cons, hchild]
      exact hchain
    · have hstep : (Lineage.mk sub (command :: upper)).names
          = (Lineage.mk command upper).names ++ [sub.spec.name] :=
        Lineage.names_child ⟨command, upper⟩ sub
      rw [hnames, hstep, hcons, List.append_assoc]
      rfl

end Reader

/-- The node at the end of the chain is the one of the command of the level that runs. -/
theorem Reader.Descent.node {calledBy : Option String} {above : Inheritance} {command : Command}
    {progress last : Progress} {read : Parsed} {inner : Level}
    (h : Descent calledBy above command progress read inner last) (hapart : command.LeadsApart) :
    ∃ id lineage node, (CommandTree.ofCommand command).Placed command id lineage
      ∧ lineage.names = read.chain
      ∧ (CommandTree.ofCommand command).lookup read.chain = some id
      ∧ (CommandTree.ofCommand command).node? id = some node
      ∧ node.positionals = inner.spec.wordIds
      ∧ node.flags = (Scope.ofSpec (Scope.handedDown lineage.above) inner.spec).flags := by
  obtain ⟨id, lineage, hplaced, hchain, hnames, hspec⟩ :=
    h.placed hapart (.root (CommandTree.holds_root command))
  obtain ⟨parent, hholds⟩ := hplaced.holds
  obtain ⟨node, hnode, hof⟩ := hholds.node
  refine ⟨id, lineage, node, hplaced, hnames, hchain, hnode, ?_, ?_⟩
  · rw [hof.positionals, Scope.positionals_ofSpec, hspec]
  · rw [hof.flags, hspec]

namespace CommandTree

/-- The node that is found for a command line is the one at the end of all that was chosen. It has
the records of the level where the arguments ended, and the arguments of the command there. -/
theorem resolve_reaches_innermost {command : Command} {argv : List String} {parsed : Parsed}
    (h : command.LeadsApart) (hparse : command.parse argv = .ok parsed) :
    ∃ inner last read id node,
      Reader.innermost (command.outermost argv.head?) {} argv.tail = (inner, last)
      ∧ Reader.read (command.outermost argv.head?) {} argv.tail = .ok read
      ∧ parsed = Globals.share read
      ∧ Reader.finish inner last false = .ok read.last
      ∧ (ofCommand command).resolve parsed = (id, parsed.last)
      ∧ (ofCommand command).lookup parsed.chain = some id
      ∧ (ofCommand command).path id
        = (if parsed.chain = [] then rootPath else String.intercalate "." parsed.chain)
      ∧ (ofCommand command).node? id = some node
      ∧ node.positionals = inner.spec.wordIds
      ∧ ∃ inherited own, node.flags = inherited ++ own
        ∧ (∀ flag ∈ inherited, inner.spec.option? flag.id = none)
        ∧ ∀ option, own.find? (·.id = option) = (inner.spec.option? option).map FlagSpec.ofArg := by
  obtain ⟨inner, last, read, hinner, hread, rfl, hdescent⟩ :=
    Reader.exists_descent_of_parse h hparse
  obtain ⟨id, lineage, node, hplaced, hnames, hchain, hnode, hwords, hflags⟩ := hdescent.node h
  have hresolve : (ofCommand command).resolve (Globals.share read)
      = (id, (Globals.share read).last) := by
    rw [Parsed.last_share]
    exact Parsed.resolve_share hchain
  have hshared : (Globals.share read).chain = read.chain := Globals.share_chain read
  refine ⟨inner, last, read, id, node, hinner, hread, rfl, hdescent.finish_last, hresolve, ?_, ?_,
    hnode, hwords, ?_⟩
  · rw [hshared]
    exact hchain
  · rw [path, hplaced.segments, hnames, hshared]
  · rw [hflags]
    exact Scope.exists_flags_eq _ _

/-- Words other than the names are followed to the command all the same. -/
theorem resolve_reaches_innermost_by_alias :
    let add : CommandSpec :=
      { name := "add", aliases := ["new"]
        args :=
          [{ id := "url" }, { id := "force", long := some "force", action := some .setTrue }] }
    let command : Command :=
      { spec := { name := "app" }
        subcommands :=
          [{ spec := { name := "remote", aliases := ["r"] }, subcommands := [.leaf add] }] }
    ∃ parsed id node, command.LeadsApart
      ∧ command.parse ["app", "r", "new", "u", "--force"] = .ok parsed
      ∧ (ofCommand command).resolve parsed = (id, parsed.last)
      ∧ (ofCommand command).path id = "remote.add"
      ∧ (ofCommand command).node? id = some node ∧ node.positionals = ["url"] := by
  intro add command
  have hapart : command.LeadsApart := by decide +kernel
  obtain ⟨parsed, hparse, hchain⟩ : ∃ parsed,
      command.parse ["app", "r", "new", "u", "--force"] = .ok parsed
        ∧ parsed.chain = ["remote", "add"] := Command.exists_parse (by decide +kernel)
  obtain ⟨inner, last, read, id, node, hinner, -, -, -, hresolve, -, hpath, hnode, hwords, -⟩ :=
    resolve_reaches_innermost hapart hparse
  refine ⟨parsed, id, node, hapart, hparse, hresolve, ?_, hnode, ?_⟩
  · rw [hpath, hchain]
    decide +kernel
  · have hspec : (Reader.innermost (command.outermost (some "app")) {}
        ["r", "new", "u", "--force"]).1.spec = add := by decide +kernel
    have hsame : inner.spec = add := by
      rw [← hspec]
      exact congrArg (·.1.spec) hinner.symm
    rw [hwords, hsame]
    rfl

/-- The node has no option that asks for a page, although the command that runs declares one. -/
theorem resolve_lacks_declared_page_option :
    let spec : CommandSpec :=
      { name := "app", args := [{ id := "usage", long := some "usage", action := some .help }] }
    ∃ parsed node, (Command.leaf spec).LeadsApart ∧ (Command.leaf spec).parse ["app"] = .ok parsed
      ∧ (ofCommand (.leaf spec)).node? ((ofCommand (.leaf spec)).resolve parsed).1 = some node
      ∧ node.flags.map (·.id) ≠ (spec.args.filter (!·.isPositional)).map (·.id) := by
  intro spec
  exact ⟨_, _, by decide +kernel, rfl, rfl, by decide +kernel⟩

end CommandTree

end CommandTelemetry
