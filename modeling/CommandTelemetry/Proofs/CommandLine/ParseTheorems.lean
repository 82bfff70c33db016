import CommandTelemetry.CommandLine.Parse
import CommandTelemetry.Proofs.CommandLine.ReaderTheorems

/-!
# Parsing is reading against consistent levels

A command line is parsed by reading it, unless a level that it leads through contradicts itself.

* `Command.parse_ok` says what is known of a command line that was parsed;
* `Level.keepsValues_of_isConsistent` says that the positionals of a consistent level keep values;
* `Reader.isConsistent_of_mem_levelsMet` says that a consistent definition is consistent wherever a
  command line leads, so that `Command.parse_ne_inconsistent`.
-/

namespace CommandTelemetry

namespace Command

variable {command : Command} {argv : List String} {parsed : Parsed}

/-- What was parsed was read, and every level on the way was consistent. -/
theorem parse_ok (h : command.parse argv = .ok parsed) :
    (∀ level ∈ Reader.levelsMet (command.outermost argv.head?) {} argv.tail,
        level.isConsistent = true)
      ∧ ∃ read, Reader.read (command.outermost argv.head?) {} argv.tail = .ok read
        ∧ parsed = Globals.share read := by
  unfold parse at h
  split at h
  · cases h
  · next hnone =>
    split at h
    · cases h
    · next read hread =>
      refine ⟨fun level hlevel => ?_, read, hread, (Except.ok.inj h).symm⟩
      have hconsistent := List.find?_eq_none.1 hnone level hlevel
      rwa [Bool.not_eq_true, Bool.not_eq_false'] at hconsistent

/-- A command line is parsed, and to something with a property, if that is what comes out. -/
theorem exists_parse {p : Parsed → Prop} [DecidablePred p]
    (h : (command.parse argv).toOption.any (p ·) = true) :
    ∃ parsed, command.parse argv = .ok parsed ∧ p parsed := by
  cases hparse : command.parse argv with
  | error error =>
    rw [hparse] at h
    cases h
  | ok parsed =>
    rw [hparse] at h
    exact ⟨parsed, rfl, of_decide_eq_true h⟩

end Command

/-! ## Consistent levels -/

section

variable {level : Level} {arg : Arg}

theorem Level.isConsistent_of_mem (h : level.isConsistent = true) (harg : arg ∈ level.args) :
    arg.isConsistent = true := by
  simp only [Level.isConsistent, Bool.and_eq_true] at h
  obtain ⟨⟨⟨⟨⟨⟨hargs, -⟩, -⟩, -⟩, -⟩, -⟩, -⟩ := h
  exact List.all_eq_true.1 hargs arg harg

/-- An argument that needs values has an action that keeps them. -/
theorem Arg.keepsValues_of_isConsistent (h : arg.isConsistent = true)
    (hneeds : arg.needsValues = true) : arg.effectiveAction.takesValues = true := by
  simp only [Arg.isConsistent, Bool.and_eq_true] at h
  obtain ⟨⟨⟨⟨⟨⟨hfits, htakes⟩, -⟩, -⟩, -⟩, -⟩, -⟩ := h
  rw [of_decide_eq_true hfits]
  simpa [hneeds] using htakes

/-- The positionals of a consistent level keep values. -/
theorem Level.keepsValues_of_isConsistent (h : level.isConsistent = true)
    (harg : arg ∈ level.positionals) : arg.effectiveAction.takesValues = true := by
  obtain ⟨hmem, hpositional⟩ := List.mem_filter.1 harg
  refine Arg.keepsValues_of_isConsistent (isConsistent_of_mem h hmem) ?_
  simp [Arg.needsValues, hpositional]

end

namespace Command

variable {command : Command} {argv : List String} {parsed : Parsed}

/-! ## Consistent definitions -/

theorem isConsistentAll_iff {level : Level} {commands : List Command} :
    isConsistentAll level commands = true
      ↔ ∀ command ∈ commands, command.isConsistentBelow (level.inheritance command) = true := by
  induction commands with
  | nil => simp [isConsistentAll]
  | cons command rest ih => rw [isConsistentAll, Bool.and_eq_true, ih, List.forall_mem_cons]

theorem isConsistentBelow_iff {above : Inheritance} :
    command.isConsistentBelow above = true
      ↔ (Level.ofCommand none above command).isConsistent = true
        ∧ ∀ sub ∈ command.subcommands, sub.isConsistentBelow
            ((Level.ofCommand none above command).inheritance sub) = true := by
  cases command with
  | mk spec subcommands => rw [isConsistentBelow, Bool.and_eq_true, isConsistentAll_iff]

/-- By what words a command is reached makes no difference. -/
theorem isConsistent_ofCommand {above : Inheritance} (h : command.isConsistentBelow above = true)
    (calledBy : Option String) : (Level.ofCommand calledBy above command).isConsistent = true :=
  (isConsistentBelow_iff.1 h).1

/-- The automatic command `help` takes any words and has no flags. -/
theorem isConsistentBelow_helpCommand {above : Inheritance} (h : above.globals = []) :
    Level.helpCommand.isConsistentBelow above = true := by
  obtain ⟨globals, hasHelpFlag, hasHelpCommand⟩ := above
  cases h
  cases hasHelpFlag <;> cases hasHelpCommand <;> decide

/-- Every command that a word can name at a level of a consistent definition is consistent there. -/
theorem isConsistentBelow_of_command? {calledBy : Option String} {above : Inheritance}
    {sub : Command} {word : String} (h : command.isConsistentBelow above = true)
    (hsub : (Level.ofCommand calledBy above command).command? word = some sub) :
    sub.isConsistentBelow ((Level.ofCommand calledBy above command).inheritance sub) = true := by
  have hmem := List.mem_of_find?_eq_some hsub
  rw [Level.commands, List.mem_append] at hmem
  rcases hmem with hdeclared | hautomatic
  · exact (isConsistentBelow_iff.1 h).2 sub hdeclared
  · -- behind the subcommands stands only the command `help`, which gets no global options
    split at hautomatic
    · next hoffers =>
      rw [List.mem_singleton.1 hautomatic]
      refine isConsistentBelow_helpCommand ?_
      rw [Level.inheritance, Level.isHelp, hoffers]
      rfl
    · cases hautomatic

end Command

namespace Reader

variable {command : Command} {above : Inheritance} {calledBy : Option String} {met : Level}

/-- The way to a page leads through consistent levels. -/
theorem isConsistent_of_mem_helpLevels (h : command.isConsistentBelow above = true)
    {words : List String} (hmet : met ∈ helpLevels (Level.ofCommand calledBy above command) words) :
    met.isConsistent = true := by
  induction words generalizing command above calledBy with
  | nil =>
    rw [List.mem_singleton.1 hmet]
    exact Command.isConsistent_ofCommand h calledBy
  | cons word rest ih =>
    rw [helpLevels, List.mem_cons] at hmet
    rcases hmet with rfl | hbelow
    · exact Command.isConsistent_ofCommand h calledBy
    · split at hbelow
      · next sub hsub => exact ih (Command.isConsistentBelow_of_command? h hsub) hbelow
      · cases hbelow

/-- A command line leads through consistent levels only, however far reading has come. -/
theorem isConsistent_of_mem_levelsMet (h : command.isConsistentBelow above = true)
    {progress : Progress} {arguments : List String}
    (hmet : met ∈ levelsMet (Level.ofCommand calledBy above command) progress arguments) :
    met.isConsistent = true := by
  induction arguments generalizing command above calledBy progress with
  | nil =>
    rw [List.mem_singleton.1 hmet]
    exact Command.isConsistent_ofCommand h calledBy
  | cons argument rest ih =>
    rw [levelsMet] at hmet
    split at hmet
    · exact ih h hmet
    · next sub hturn =>
      rcases List.mem_cons.1 hmet with rfl | hbelow
      · exact Command.isConsistent_ofCommand h calledBy
      · -- reading goes down only to a command that the level finds
        obtain ⟨_, hstay, -⟩ | ⟨_, hdescend, -, -, hcommand, -⟩ | hhelp | ⟨⟨_, hexternal⟩, -⟩ :=
          turn_ok hturn
        · cases hstay
        · cases hdescend
          exact ih (Command.isConsistentBelow_of_command? h hcommand) hbelow
        · cases hhelp
        · cases hexternal
    · -- a request for a page leads on through levels that are not read
      exact isConsistent_of_mem_helpLevels h hmet
    · rw [List.mem_singleton.1 hmet]
      exact Command.isConsistent_ofCommand h calledBy
    · rw [List.mem_singleton.1 hmet]
      exact Command.isConsistent_ofCommand h calledBy

end Reader

namespace Command

variable {command : Command} {argv : List String}

theorem inconsistency?_eq_none (h : command.isConsistent = true) :
    command.inconsistency? argv = none := by
  refine List.find?_eq_none.2 fun level hlevel => ?_
  rw [Reader.isConsistent_of_mem_levelsMet h hlevel]
  exact Bool.false_ne_true

/-- A consistent definition refuses no command line for what it declares. -/
theorem parse_ne_inconsistent (h : command.isConsistent = true) (level : Level) :
    command.parse argv ≠ .error (.inconsistent level) := by
  rw [parse, inconsistency?_eq_none h]
  intro heq
  dsimp only at heq
  split at heq <;> cases heq

end Command

end CommandTelemetry
