import CommandTelemetry.Command.Sample
import CommandTelemetry.Command.Walk
import CommandTelemetry.Proofs.CommandLine.GlobalsTheorems
import CommandTelemetry.Proofs.CommandLine.OptionLevelTheorems
import CommandTelemetry.Proofs.CommandLine.ParseTheorems
import CommandTelemetry.Proofs.Invocation.ResolveTheorems

/-!
# The walk finds the command that runs

Two readers look at the same arguments: the one that reads a command line against its levels, and
the walk, which knows the tree alone. For a clear command definition they go down together, however
the options are written and whatever their values look like.

* `CommandTree.Reached` ties a place of the tree to a level, and `CommandTree.Reached.follows` says
  what the walk does with an argument that reading keeps at that level;
* `CommandTree.Reached.walk_eq_descend` is the same for all arguments from some level on;
* `CommandTree.find_eq_resolve` says it of whole command lines.
-/

namespace CommandTelemetry

/-! ## Clusters that end with a value to come -/

/-- A cluster of several letters. -/
def Token.isSeveralLetters : Token → Bool
  | .cluster _ (_ :: _) => true
  | _ => false

/-- The next argument is a value of an option. -/
def Progress.awaitsValue (progress : Progress) : Bool :=
  match progress.collecting with
  | .option _ => true
  | _ => false

/-- The arguments that name no command, each with how far reading has come after it. -/
def Reader.kept (level : Level) (progress : Progress) : List String → List (String × Progress)
  | [] => []
  | argument :: rest =>
    match turn level progress argument rest.head? with
    | .ok (.stay next) => (argument, next) :: kept level next rest
    | .ok (.descend command) => kept (level.enter command) {} rest
    | _ => []

/-- No cluster of several letters ends with an option that takes the next argument. -/
def Reader.ClustersClosed (level : Level) (progress : Progress) (arguments : List String) : Prop :=
  ∀ step ∈ kept level progress arguments,
    (Token.read step.1).isSeveralLetters = true → step.2.awaitsValue = false

/-- The same for an argument vector. -/
def Command.ClustersClosed (command : Command) (argv : List String) : Prop :=
  Reader.ClustersClosed (command.outermost argv.head?) {} argv.tail

namespace Reader

variable {level : Level} {progress next : Progress} {argument : String} {rest : List String}

theorem ClustersClosed.stay (h : ClustersClosed level progress (argument :: rest))
    (hturn : turn level progress argument rest.head? = .ok (.stay next)) :
    ((Token.read argument).isSeveralLetters = true → next.awaitsValue = false)
      ∧ ClustersClosed level next rest := by
  rw [ClustersClosed, kept, hturn] at h
  exact List.forall_mem_cons.1 h

theorem ClustersClosed.descend {sub : Command}
    (h : ClustersClosed level progress (argument :: rest))
    (hturn : turn level progress argument rest.head? = .ok (.descend sub)) :
    ClustersClosed (level.enter sub) {} rest := by
  rw [ClustersClosed, kept, hturn] at h
  exact h

end Reader

/-! ## Words -/

/-- What does not start with a dash is a word. -/
theorem Token.read_word {word : String} (h : word.toList.head? ≠ some '-') :
    Token.read word = .word word := by
  unfold Token.read Token.ofChars
  split
  · next hchars => simp [hchars] at h
  · next hchars => simp [hchars] at h
  · next hchars => simp [hchars] at h
  · rw [String.ofList_toList]

/-! ## One argument -/

namespace CommandTree

variable {tree : CommandTree} {above : Inheritance} {id : NodeId} {command sub : Command}
  {arg : Arg} {calledBy : Option String}

/-- A place of the tree and a level that are reached by the same words, in a clear definition. -/
def Reached (tree : CommandTree) (above : Inheritance) (id : NodeId) (command : Command) : Prop :=
  ∃ declared globals parent, command.Clear above declared ∧ HandedOn above declared globals
    ∧ tree.Holds parent globals id command

theorem reached_root (h : command.IsClear) : (ofCommand command).Reached {} root command :=
  ⟨[], [], none, h, handedOn_nil, holds_root command⟩

theorem Reached.isSimple (h : tree.Reached above id command) :
    ∀ arg ∈ (Level.ofCommand calledBy above command).args, arg.isPositional = false →
      arg.IsSimple := by
  obtain ⟨declared, globals, parent, hclear, hhanded, -⟩ := h
  intro arg harg hoption
  exact hhanded.isSimple hclear.here harg hoption

theorem Reached.takesNoWords (h : tree.Reached above id command)
    (hsubs : command.subcommands ≠ []) :
    Reader.TakesNoWords (Level.ofCommand calledBy above command) := by
  obtain ⟨declared, globals, parent, hclear, hhanded, -⟩ := h
  constructor
  · refine List.filter_eq_nil_iff.2 fun arg harg => ?_
    rw [hhanded.isPositional_eq_false hclear.here hsubs harg]
    exact Bool.false_ne_true
  · exact hclear.here.noExternal hsubs

/-- An option that is found by a name is passed over as the tree says of it. -/
theorem Reached.passOption_long? (h : tree.Reached above id command) {name : String}
    (hlong : (Level.ofCommand calledBy above command).long? name = some arg)
    (hpage : arg.asksForPage = false) : passOption ((tree.node? id).bind (·.long? name))
      = if (FlagSpec.ofArg arg).takesValue then .passWithValue else .pass := by
  obtain ⟨declared, globals, parent, hclear, hhanded, hholds⟩ := h
  rw [hhanded.node_long? hclear.here hholds hlong hpage, passOption, Option.any_some]

theorem Reached.passOption_short? (h : tree.Reached above id command) {letter : Char}
    (hshort : (Level.ofCommand calledBy above command).short? letter = some arg)
    (hpage : arg.asksForPage = false) : passOption ((tree.node? id).bind (·.short? letter))
      = if (FlagSpec.ofArg arg).takesValue then .passWithValue else .pass := by
  obtain ⟨declared, globals, parent, hclear, hhanded, hholds⟩ := h
  rw [hhanded.node_short? hclear.here hholds hshort hpage, passOption, Option.any_some]

/-- Going down by a word leads to the same child as going down by the name of its command. -/
theorem Reached.child (h : tree.Reached above id command) {word : String}
    (hsub : command.subcommand? word = some sub)
    (hhelp : (Level.ofCommand calledBy above command).isHelp sub = false) :
    ∃ child, tree.stride id word = .descend child ∧ tree.child? id sub.spec.name = some child
      ∧ tree.Reached (command.handsOn above sub) child sub := by
  obtain ⟨declared, globals, parent, hclear, hhanded, hholds⟩ := h
  obtain ⟨child, hchild, hbelow⟩ := hholds.child?_of_some hsub
  have hmem : sub ∈ command.subcommands := List.mem_of_find?_eq_some hsub
  have hword : word ∈ sub.spec.words := by
    unfold Command.subcommand? at hsub
    have hfound := List.find?_some hsub
    exact CommandSpec.answersTo_iff.1 hfound
  refine ⟨child, ?_, ?_, declared ++ command.spec.args.map (·.id), _, _,
    hclear.ofSubcommand hmem, hhanded.below hclear.here (List.ne_nil_of_mem hmem) hhelp, hbelow⟩
  · rw [stride, Token.read_word (hclear.here.wordsNoDash sub hmem word hword)]
    dsimp only
    rw [hchild]
  · rw [hholds.child?_congr fun other hother =>
      Command.answersTo_name hclear.here.wordsApart hsub hother, hchild]

/-- What the walk does with an argument that reading keeps at its level, and what follows. -/
inductive Follows (tree : CommandTree) (id : NodeId) (argument : String) : Progress → Prop where
  /-- A page was asked for. -/
  | doomed {next : Progress} (h : Reader.Doomed next) : Follows tree id argument next
  /-- Nothing may follow, and the walk ends. -/
  | halt {next : Progress} (h : next.trailing = true) (hstride : tree.stride id argument = .halt) :
    Follows tree id argument next
  /-- Both go on with the next argument. -/
  | pass {next : Progress} (h : Reader.Idle next) (hstride : tree.stride id argument = .pass) :
    Follows tree id argument next
  /-- Both take the next argument for a value. -/
  | passWithValue {next : Progress} {arg : Arg} (h : Reader.Waiting next arg)
    (hstride : tree.stride id argument = .passWithValue) : Follows tree id argument next

/-- An option is passed over with a value just when its value follows. -/
theorem follows_of_met {level : Level} {progress next : Progress} {argument : String}
    {attached : Option String} (hidle : Reader.Idle progress) (hsimple : arg.IsSimple)
    (hoption : arg.isPositional = false) (hmet : Reader.Met level progress arg attached next)
    (hstride : arg.asksForPage = false → tree.stride id argument
      = if attached = none ∧ (FlagSpec.ofArg arg).takesValue = true then .passWithValue
        else .pass) : tree.Follows id argument next := by
  obtain hdoomed | ⟨hpage, hnext⟩ := Reader.met_of_simple hidle hsimple hoption hmet
  · exact .doomed hdoomed
  · obtain ⟨hnext, hswitch⟩ | ⟨hwaiting, hnone, hvalue⟩ := hnext
    · refine .pass hnext ?_
      rw [hstride hpage, if_neg]
      rintro ⟨hnone, hvalue⟩
      rw [hswitch hnone] at hvalue
      cases hvalue
    · refine .passWithValue hwaiting ?_
      rw [hstride hpage, if_pos ⟨hnone, hvalue⟩]

/-- Where reading is idle, the walk does with an argument what reading does with it. -/
theorem Reached.follows {progress next : Progress} {argument : String} {following : Option String}
    (h : tree.Reached above id command) (hsubs : command.subcommands ≠ [])
    (hidle : Reader.Idle progress)
    (hturn : Reader.turn (Level.ofCommand calledBy above command) progress argument following
      = .ok (.stay next))
    (hclosed : (Token.read argument).isSeveralLetters = true → next.awaitsValue = false) :
    tree.Follows id argument next := by
  have htaken := Reader.taken_of_idle (h.takesNoWords hsubs) hidle hturn
  -- the token is all that the walk looks at
  generalize htoken : Token.read argument = token at htaken hclosed
  cases htaken with
  | terminator => exact .halt rfl (by rw [stride, htoken])
  | @long name value arg _ hlong hmet =>
    have hoption := Level.isPositional_of_long? hlong
    have hsimple := h.isSimple arg (Level.mem_of_long? hlong) hoption
    refine follows_of_met hidle hsimple hoption hmet fun hpage => ?_
    rw [stride, htoken]
    cases value with
    | some value => simp
    | none => simp [h.passOption_long? hlong hpage]
  | @letter letter arg _ hshort hmet =>
    have hoption := Level.isPositional_of_short? hshort
    have hsimple := h.isSimple arg (Level.mem_of_short? hshort) hoption
    refine follows_of_met hidle hsimple hoption hmet fun hpage => ?_
    rw [stride, htoken]
    simp [h.passOption_short? hshort hpage]
  | letters hcluster =>
    obtain hdoomed | hnext | ⟨arg, hwaiting⟩ := Reader.readCluster_idle h.isSimple hidle hcluster
    · exact .doomed hdoomed
    · exact .pass hnext (by rw [stride, htoken])
    · -- the walk passes over a cluster as if it had no value, so none may follow
      have hawaits := hclosed rfl
      rw [Progress.awaitsValue, hwaiting.collecting] at hawaits
      cases hawaits

/-! ## Whole command lines -/

theorem walk_cons (tree : CommandTree) (id : NodeId) (argument : String) (rest : List String) :
    tree.walk id (argument :: rest) = match tree.stride id argument with
      | .halt => id
      | .pass => tree.walk id rest
      | .passWithValue => tree.walk id rest.tail
      | .descend child => tree.walk child rest := by
  rw [walk.eq_def]
  cases rest with
  | nil => rfl
  | cons value rest => rfl

theorem child?_of_stride {argument : String} {child : NodeId}
    (h : tree.stride id argument = .descend child) : ∃ word, tree.child? id word = some child := by
  unfold stride passOption at h
  split at h
  · cases h
  · split at h <;> cases h
  · cases h
  · split at h <;> cases h
  · cases h
  · -- only a word leads down
    next word htoken =>
    split at h
    · next found hfound =>
      cases h
      exact ⟨word, hfound⟩
    · cases h

/-- The walk stays at a command without subcommands. -/
theorem walk_of_no_children (hnone : ∀ word, tree.child? id word = none) (arguments : List String) :
    tree.walk id arguments = id := by
  fun_induction tree.walk id arguments with
  | case1 => rfl
  | case2 => rfl
  | case3 _ _ _ _ ih => exact ih hnone
  | case4 => rfl
  | case5 _ _ _ _ _ ih => exact ih hnone
  | case6 current argument rest child hstride _ =>
    obtain ⟨word, hword⟩ := child?_of_stride hstride
    rw [hnone word] at hword
    cases hword

/-- A level without subcommands ends the walk, and ends what was chosen. -/
theorem Reached.child?_of_leaf (h : tree.Reached above id command)
    (hleaf : command.subcommands = []) (word : String) : tree.child? id word = none := by
  obtain ⟨declared, globals, parent, -, -, hholds⟩ := h
  refine hholds.child?_of_none ?_
  rw [Command.subcommand?, hleaf, List.find?_nil]

/-- From every level on the walk goes down as the subcommands were chosen. After an option that
waits for its value, the walk has passed over that value. -/
theorem Reached.walk_eq_descend {progress : Progress} {arguments : List String} {parsed : Parsed}
    (h : tree.Reached above id command)
    (hread : Reader.read (Level.ofCommand calledBy above command) progress arguments = .ok parsed)
    (hclosed : Reader.ClustersClosed (Level.ofCommand calledBy above command) progress arguments) :
    (Reader.Idle progress →
      tree.walk id arguments = (tree.descend id parsed.top parsed.below).1)
    ∧ ∀ arg, Reader.Waiting progress arg →
      tree.walk id arguments.tail = (tree.descend id parsed.top parsed.below).1 := by
  induction arguments generalizing above id command calledBy progress parsed with
  | nil =>
    obtain ⟨top, -, rfl⟩ := Reader.read_nil_ok hread
    exact ⟨fun _ => rfl, fun _ _ => rfl⟩
  | cons argument rest ih =>
    by_cases hsubs : command.subcommands = []
    · -- both have come to their end, whatever the arguments are
      have hnone := h.child?_of_leaf hsubs
      rw [walk_of_no_children hnone, walk_of_no_children hnone, descend_of_no_children hnone]
      exact ⟨fun _ => rfl, fun _ _ => rfl⟩
    have hlevel : Reader.TakesNoWords (Level.ofCommand calledBy above command) :=
      h.takesNoWords hsubs
    constructor
    · intro hidle
      obtain ⟨next, hturn, -, hrest⟩ | ⟨sub, below, top, hturn, hcommand, hhelp, hbelow, -, rfl⟩ |
        ⟨_, _, -, hexternal, -⟩ := Reader.read_cons_ok hread
      · -- the argument is kept at the level
        obtain ⟨hletters, hclosed⟩ := hclosed.stay hturn
        cases h.follows hsubs hidle hturn hletters with
        | doomed hdoomed => exact absurd hrest (Reader.read_doomed hdoomed hlevel)
        | halt htrailing hstride =>
          -- the walk stops here, and what was read has nothing more
          have hnil := Reader.read_trailing hlevel htrailing hrest
          subst hnil
          obtain ⟨top, -, rfl⟩ := Reader.read_nil_ok hrest
          rw [walk_cons, hstride]
          rfl
        | pass hnext hstride =>
          rw [walk_cons, hstride]
          exact (ih h hrest hclosed).1 hnext
        | passWithValue hwaiting hstride =>
          rw [walk_cons, hstride]
          exact (ih h hrest hclosed).2 _ hwaiting
      · -- the argument names a subcommand
        have hsub := Level.subcommand?_of_command? hcommand hhelp
        obtain ⟨child, hstride, hname, hchild⟩ := h.child hsub hhelp
        have hbelowName : below.top.command = sub.spec.name := Reader.read_command hbelow
        rw [walk_cons, hstride, Parsed.levels, descend, hbelowName, hname]
        exact (ih hchild hbelow (hclosed.descend hturn)).1 ⟨rfl, rfl⟩
      · -- a level with subcommands leaves no word to a command from elsewhere
        rw [hlevel.noExternal] at hexternal
        cases hexternal
    · intro arg hwaiting
      obtain ⟨value, behind, next, harguments, hidle, hturn, hrest⟩ :=
        Reader.read_waiting hlevel hwaiting hread
      obtain ⟨rfl, rfl⟩ := List.cons_eq_cons.1 harguments
      exact (ih h hrest (hclosed.stay hturn).2).1 hidle

end CommandTree

/-- What runs when a command line was read is what the walk finds in its arguments. -/
theorem CommandTree.find_eq_resolve {command : Command} {argv : List String} {parsed : Parsed}
    (hclear : command.IsClear) (hclosed : command.ClustersClosed argv)
    (hparse : command.parse argv = .ok parsed) :
    (ofCommand command).find argv.tail = ((ofCommand command).resolve parsed).1 := by
  obtain ⟨-, unshared, hread, rfl⟩ := Command.parse_ok hparse
  have hwalk := ((reached_root hclear).walk_eq_descend hread hclosed).1 ⟨rfl, rfl⟩
  rw [find, hwalk, resolve]
  exact descend_congr (Globals.share_chain unshared).symm

/-- Values that are called like commands mislead neither of the two: both reach `docker logs`. -/
theorem CommandTree.find_eq_resolve_values_like_commands :
    ∃ parsed, Command.sample.parse
        ["acontext", "--config", "version", "docker", "--config=down", "logs", "-f", "up"]
          = .ok parsed
      ∧ (ofCommand Command.sample).find
          ["--config", "version", "docker", "--config=down", "logs", "-f", "up"]
        = ((ofCommand Command.sample).resolve parsed).1
      ∧ ((ofCommand Command.sample).resolve parsed).1 = 7
      ∧ (ofCommand Command.sample).path 7 = "docker.logs" := by
  obtain ⟨parsed, hparse, hreached⟩ : ∃ parsed, Command.sample.parse
      ["acontext", "--config", "version", "docker", "--config=down", "logs", "-f", "up"]
        = .ok parsed
      ∧ ((ofCommand Command.sample).resolve parsed).1 = 7 :=
    Command.exists_parse (by decide +kernel)
  have hclear : Command.sample.IsClear := by decide +kernel
  have hclosed : Command.sample.ClustersClosed
      ["acontext", "--config", "version", "docker", "--config=down", "logs", "-f", "up"] := by
    unfold Command.ClustersClosed Reader.ClustersClosed
    decide +kernel
  exact ⟨parsed, hparse, find_eq_resolve hclear hclosed hparse, hreached, by decide +kernel⟩

end CommandTelemetry
