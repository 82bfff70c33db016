import CommandTelemetry.Proofs.Command.ArenaTheorems
import CommandTelemetry.Proofs.Command.DistinctCommandTheorems
import CommandTelemetry.Proofs.Command.PlaceTheorems

/-!
# Paths lead back

The path of a node is found on the way up, and a node is looked up on the way down. Where siblings
share no word and no name has a dot in it, the two undo each other.

* `CommandTree.Placed.segments` says that the way up meets the names of the way down;
* `CommandTree.Holds.child?_of_answers` says that a word leads to the child that is called by it,
  and `CommandTree.Placed.foldlM_child?` that the words on the way down lead to the node;
* `CommandTree.lookup_path` says it of all nodes, and that no two nodes have the same path.
-/

namespace CommandTelemetry

/-- A definition in which siblings share no word and a path tells its names apart. -/
structure Command.PathsApart (command : Command) : Prop where
  words : ∀ lower ∈ command.preorder, lower.subcommands.Pairwise fun first second =>
    ∀ word ∈ first.spec.words, word ∉ second.spec.words
  noDot : ∀ lower ∈ command.preorder, ∀ sub ∈ lower.subcommands, '.' ∉ sub.name.toList
  notRoot : ∀ sub ∈ command.subcommands, sub.name ≠ CommandTree.rootPath

instance (command : Command) : Decidable command.PathsApart :=
  decidable_of_iff
    ((∀ lower ∈ command.preorder, lower.subcommands.Pairwise fun first second =>
        ∀ word ∈ first.spec.words, word ∉ second.spec.words)
      ∧ (∀ lower ∈ command.preorder, ∀ sub ∈ lower.subcommands, '.' ∉ sub.name.toList)
      ∧ ∀ sub ∈ command.subcommands, sub.name ≠ CommandTree.rootPath)
    ⟨fun ⟨hwords, hdot, hroot⟩ => ⟨hwords, hdot, hroot⟩,
      fun ⟨hwords, hdot, hroot⟩ => ⟨hwords, hdot, hroot⟩⟩

namespace CommandTree

variable {tree : CommandTree} {parent : Option NodeId} {globals : List FlagSpec}
  {command outermost : Command} {id child : NodeId} {lineage : Lineage}

/-! ## The way up -/

/-- What stands below a placed command belongs to the definition. -/
theorem Placed.preorder_subset (h : tree.Placed outermost id lineage) :
    ∀ lower ∈ lineage.command.preorder, lower ∈ outermost.preorder := by
  induction h with
  | root _ => exact fun lower hlower => hlower
  | child _ hsub _ _ ih =>
    exact fun lower hlower => ih lower (Command.preorder_subset hsub lower hlower)

theorem Placed.mem_preorder (h : tree.Placed outermost id lineage) :
    lineage.command ∈ outermost.preorder :=
  h.preorder_subset _ (Command.mem_preorder_self _)

/-- The way up from a node meets the names of the way down to it. -/
theorem Placed.segments (h : tree.Placed outermost id lineage) :
    tree.segments id = lineage.names := by
  induction h with
  | root hholds =>
    obtain ⟨node, hnode, hof⟩ := hholds.node
    rw [CommandTree.segments]
    simp [hnode, hof.parent, Lineage.names, Lineage.wayDown_outermost]
  | @child id child lineage sub habove hsub hchild hholds ih =>
    obtain ⟨node, hnode, hof⟩ := hholds.node
    obtain ⟨upper, habove⟩ := habove.holds
    have hlt : id < child := habove.lt_child hchild
    rw [CommandTree.segments]
    simp [hnode, hof.parent, hof.name, hlt, ih, Lineage.names_child, Command.name]

/-- Only the root is reached by no step. -/
theorem Placed.names_ne_nil (h : tree.Placed outermost id lineage) (hid : id ≠ CommandTree.root) :
    lineage.names ≠ [] := by
  cases h with
  | root _ => exact absurd rfl hid
  | child _ _ _ _ =>
    rw [Lineage.names_child]
    exact List.append_ne_nil_of_right_ne_nil _ (List.cons_ne_nil _ _)

theorem Placed.path_of_ne_root (h : tree.Placed outermost id lineage)
    (hid : id ≠ CommandTree.root) : tree.path id = String.intercalate "." lineage.names := by
  rw [path, h.segments, if_neg (h.names_ne_nil hid)]

theorem Placed.noDot (h : tree.Placed outermost id lineage)
    (hdot : ∀ lower ∈ outermost.preorder, ∀ sub ∈ lower.subcommands, '.' ∉ sub.name.toList) :
    ∀ name ∈ lineage.names, '.' ∉ name.toList := by
  induction h with
  | root _ =>
    intro name hname
    cases hname
  | @child id child lineage sub habove hsub _ _ ih =>
    intro name hname
    rw [Lineage.names_child, List.mem_append, List.mem_singleton] at hname
    rcases hname with hold | rfl
    · exact ih name hold
    · exact hdot lineage.command habove.mem_preorder sub hsub

/-- The pieces of a path between its dots are the names of the way down. -/
theorem Placed.splitOn_path (h : tree.Placed outermost id lineage)
    (hid : id ≠ CommandTree.root)
    (hdot : ∀ lower ∈ outermost.preorder, ∀ sub ∈ lower.subcommands, '.' ∉ sub.name.toList) :
    (tree.path id).toList.splitOn '.' = lineage.names.map String.toList := by
  have hne : lineage.names.map String.toList ≠ [] := by
    simpa using h.names_ne_nil hid
  have hpath : (tree.path id).toList = ['.'].intercalate (lineage.names.map String.toList) := by
    rw [h.path_of_ne_root hid, String.toList_intercalate]
    rfl
  rw [hpath]
  refine List.splitOn_intercalate '.' (fun piece hpiece => ?_) hne
  obtain ⟨name, hname, rfl⟩ := List.mem_map.1 hpiece
  exact h.noDot hdot name hname

/-! ## The way down -/

/-- Where siblings share no word, a word leads to the child that is called by it. -/
theorem Holds.child?_of_answers (h : tree.Holds parent globals id command)
    (hwords : command.subcommands.Pairwise fun first second =>
      ∀ word ∈ first.spec.words, word ∉ second.spec.words)
    (hchild : tree.HasChild id child) {word : String} (hword : tree.answers word child = true) :
    tree.child? id word = some child := by
  obtain ⟨node, hnode, hof⟩ := h.node
  obtain ⟨same, hsame, hmem⟩ := hchild
  rw [hnode] at hsame
  cases hsame
  -- the child that is found first is called by the same word, so it is the same one
  have hplace : ∀ place (hplace : place < node.children.length),
      ∃ hsub : place < command.subcommands.length,
        tree.answers word node.children[place]
          = (command.subcommands[place]).spec.answersTo word := by
    intro place hplace
    have hsub : place < command.subcommands.length := hof.children.length_eq ▸ hplace
    have hholds := hof.children.get hplace hsub
    exact ⟨hsub, hholds.answers word⟩
  rw [CommandTree.child?, hnode, Option.bind_some]
  cases hfind : node.children.find? (tree.answers word) with
  | none => exact absurd hword (List.find?_eq_none.1 hfind child hmem)
  | some found =>
    have hfound : tree.answers word found = true := List.find?_some hfind
    obtain ⟨first, hfirst, rfl⟩ := List.mem_iff_getElem.1 (List.mem_of_find?_eq_some hfind)
    obtain ⟨second, hsecond, rfl⟩ := List.mem_iff_getElem.1 hmem
    obtain ⟨hfirstSub, hfirstAnswers⟩ := hplace first hfirst
    obtain ⟨hsecondSub, hsecondAnswers⟩ := hplace second hsecond
    rw [hfirstAnswers, CommandSpec.answersTo_iff] at hfound
    rw [hsecondAnswers, CommandSpec.answersTo_iff] at hword
    have hapart := List.pairwise_iff_getElem.1 hwords
    rcases Nat.lt_trichotomy first second with hlt | rfl | hlt
    · exact absurd hword (hapart first second hfirstSub hsecondSub hlt word hfound)
    · rfl
    · exact absurd hfound (hapart second first hsecondSub hfirstSub hlt word hword)

/-- Words for the commands on the way down lead to the node. -/
theorem Placed.foldlM_child? (h : tree.Placed outermost id lineage)
    (hapart : ∀ lower ∈ outermost.preorder, lower.subcommands.Pairwise fun first second =>
      ∀ word ∈ first.spec.words, word ∉ second.spec.words) {words : List String}
    (hwords : List.Forall₂ (fun word step => word ∈ step.spec.words) words lineage.wayDown) :
    words.foldlM tree.child? CommandTree.root = some id := by
  induction h generalizing words with
  | root _ =>
    rw [Lineage.wayDown_outermost] at hwords
    cases hwords
    rfl
  | @child id child lineage sub habove hsub hchild hholds ih =>
    -- the last word is one for the node itself, and those before it lead to its parent
    rw [Lineage.wayDown_child] at hwords
    have hbefore := List.forall₂_take_append _ _ _ hwords
    have hlast := List.forall₂_drop_append _ _ _ hwords
    rw [← List.take_append_drop lineage.wayDown.length words, List.foldlM_append, ih hbefore]
    generalize words.drop lineage.wayDown.length = last at hlast
    obtain ⟨parent, hupper⟩ := habove.holds
    cases hlast with
    | @cons word _ _ _ hword hnil =>
      cases hnil
      have hanswers : tree.answers word child = true := by
        rw [hholds.answers, CommandSpec.answersTo_iff]
        exact hword
      have hdown := hupper.child?_of_answers (hapart _ habove.mem_preorder) hchild hanswers
      show [word].foldlM tree.child? id = some child
      simp [hdown]

/-- The names of the way down are words for its commands. -/
theorem forall₂_names (commands : List Command) :
    List.Forall₂ (fun word step => word ∈ step.spec.words) (commands.map (·.name)) commands := by
  induction commands with
  | nil => exact List.Forall₂.nil
  | cons command rest ih => exact List.Forall₂.cons List.mem_cons_self ih

/-! ## All nodes -/

/-- A single name on the way down is that of a subcommand of the outermost command. -/
theorem Placed.exists_of_names_eq_singleton (h : tree.Placed outermost id lineage) {name : String}
    (hnames : lineage.names = [name]) : ∃ sub ∈ outermost.subcommands, sub.name = name := by
  cases h with
  | root _ => cases hnames
  | @child _ _ upper sub habove hsub _ _ =>
    rw [Lineage.names_child] at hnames
    obtain ⟨hnil, hname⟩ : upper.names = [] ∧ sub.name = name := by
      simpa [List.append_eq_singleton_iff] using hnames
    cases habove with
    | root _ => exact ⟨sub, hsub, hname⟩
    | child _ _ _ _ =>
      rw [Lineage.names_child] at hnil
      exact absurd hnil (List.append_ne_nil_of_right_ne_nil _ (List.cons_ne_nil _ _))

theorem path_root (command : Command) : (ofCommand command).path root = rootPath := by
  have hplaced : (ofCommand command).Placed command root ⟨command, []⟩ :=
    .root (holds_root command)
  rw [path, hplaced.segments]
  exact if_pos rfl

/-- The root alone has the path of the root. -/
theorem path_ne_rootPath (h : command.PathsApart) (hid : id < (ofCommand command).nodes.length)
    (hne : id ≠ root) : (ofCommand command).path id ≠ rootPath := by
  intro hpath
  obtain ⟨lineage, hlineage⟩ := exists_lineage hid
  have hplaced := placed_of_lineages hlineage
  have hsplit := hplaced.splitOn_path hne h.noDot
  have hroot : rootPath.toList.splitOn '.' = [rootPath].map String.toList := by decide
  rw [hpath, hroot] at hsplit
  have hnames : lineage.names = [rootPath] :=
    (List.map_injective_iff.2 (fun _ _ => String.toList_injective) hsplit).symm
  obtain ⟨sub, hsub, hname⟩ := hplaced.exists_of_names_eq_singleton hnames
  exact h.notRoot sub hsub hname

/-- The pieces of a path lead to the node that it is the path of, as do all other words for the same
commands, and no two nodes have the same path. -/
theorem lookup_path (h : command.PathsApart) :
    (∀ id, id < (ofCommand command).nodes.length →
      ∃ lineage, command.lineages[id]? = some lineage
        ∧ (id ≠ root →
          ((ofCommand command).path id).toList.splitOn '.' = lineage.names.map String.toList
            ∧ (((ofCommand command).path id).toList.splitOn '.').length = lineage.above.length
            ∧ (ofCommand command).lookup lineage.names = some id)
        ∧ ∀ words, List.Forall₂ (fun word step => word ∈ step.spec.words) words lineage.wayDown →
          (ofCommand command).lookup words = some id)
      ∧ (ofCommand command).path root = rootPath
      ∧ ∀ first second, first < (ofCommand command).nodes.length →
        second < (ofCommand command).nodes.length →
        (ofCommand command).path first = (ofCommand command).path second → first = second := by
  have hnode : ∀ id, id < (ofCommand command).nodes.length →
      ∃ lineage, command.lineages[id]? = some lineage
        ∧ (id ≠ root →
          ((ofCommand command).path id).toList.splitOn '.' = lineage.names.map String.toList)
        ∧ ∀ words, List.Forall₂ (fun word step => word ∈ step.spec.words) words lineage.wayDown →
          (ofCommand command).lookup words = some id := by
    intro id hid
    obtain ⟨lineage, hlineage⟩ := exists_lineage hid
    have hplaced := placed_of_lineages hlineage
    exact ⟨lineage, hlineage, fun hne => hplaced.splitOn_path hne h.noDot,
      fun words hwords => hplaced.foldlM_child? h.words hwords⟩
  refine ⟨fun id hid => ?_, path_root command, fun first second hfirst hsecond hpath => ?_⟩
  · obtain ⟨lineage, hlineage, hsplit, hlookup⟩ := hnode id hid
    refine ⟨lineage, hlineage, fun hne => ⟨hsplit hne, ?_, ?_⟩, hlookup⟩
    · rw [hsplit hne, List.length_map, lineage.length_names]
    · exact hlookup _ (forall₂_names _)
  · by_cases hroot : first = root
    · by_contra hne
      subst hroot
      rw [path_root] at hpath
      exact path_ne_rootPath h hsecond (Ne.symm hne) hpath.symm
    · by_cases hsecondRoot : second = root
      · subst hsecondRoot
        rw [path_root] at hpath
        exact absurd hpath (path_ne_rootPath h hfirst hroot)
      · -- both paths have the same pieces, which lead to one node
        obtain ⟨lineage, -, hsplit, hlookup⟩ := hnode first hfirst
        obtain ⟨other, -, hotherSplit, hotherLookup⟩ := hnode second hsecond
        have hnames : lineage.names = other.names := by
          refine List.map_injective_iff.2 (fun _ _ => String.toList_injective) ?_
          rw [← hsplit hroot, ← hotherSplit hsecondRoot, hpath]
        have hled := hlookup _ (forall₂_names lineage.wayDown)
        have hotherLed := hotherLookup _ (forall₂_names other.wayDown)
        have hsame : lineage.wayDown.map (·.name) = other.wayDown.map (·.name) := hnames
        rw [hsame, hotherLed] at hled
        exact (Option.some.inj hled).symm

/-- An alias for the upper command and the name of the lower one lead to it. -/
theorem lookup_path_by_alias :
    let command : Command :=
      { spec := { name := "app" }
        subcommands :=
          [{ spec := { name := "remote", aliases := ["r", "rem.ote"] }
             subcommands :=
               [.leaf { name := "list" }, .leaf { name := "add", aliases := ["new"] }] },
            .leaf { name := "list" }] }
    command.PathsApart ∧ (ofCommand command).path 3 = "remote.add"
      ∧ (ofCommand command).lookup ["r", "add"] = some 3
      ∧ (ofCommand command).lookup ["rem.ote", "new"] = some 3 := by
  intro command
  have hapart : command.PathsApart := by decide +kernel
  obtain ⟨hnodes, -, -⟩ := lookup_path hapart
  obtain ⟨lineage, hlineage, -, hlookup⟩ := hnodes 3 (by decide +kernel)
  cases hlineage
  refine ⟨hapart, by decide +kernel, hlookup _ ?_, hlookup _ ?_⟩
  · exact .cons (by decide +kernel) (.cons (by decide +kernel) .nil)
  · exact .cons (by decide +kernel) (.cons (by decide +kernel) .nil)

end CommandTree

end CommandTelemetry
