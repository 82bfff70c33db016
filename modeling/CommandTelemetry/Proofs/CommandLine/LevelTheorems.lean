import CommandTelemetry.CommandLine.Level

/-!
# What a level finds

* `Level.mem_of_long?` and `Level.mem_of_short?` for options found by their name or their letter,
  with `Level.isPositional_of_long?` and `Level.isPositional_of_short?`;
* `Level.subcommand?_of_command?` for commands;
* `Level.mem_argsOf_iff` for the arguments that a level understands;
* `Level.globals_eq_nil` for command lines without global options.
-/

namespace CommandTelemetry

namespace Level

variable {level : Level} {arg : Arg} {name : String} {letter : Char}

theorem mem_of_long? (h : level.long? name = some arg) : arg ∈ level.args :=
  List.mem_of_find?_eq_some h

theorem mem_of_short? (h : level.short? letter = some arg) : arg ∈ level.args :=
  List.mem_of_find?_eq_some h

theorem long_of_long? (h : level.long? name = some arg) :
    arg.long = some name ∨ name ∈ arg.longAliases := by
  unfold long? at h
  have hfound := List.find?_some h
  rw [Bool.and_eq_true, Bool.or_eq_true, decide_eq_true_eq, List.contains_iff_mem] at hfound
  exact hfound.2

theorem short_of_short? (h : level.short? letter = some arg) : arg.short = some letter := by
  unfold short? at h
  have hfound := List.find?_some h
  exact of_decide_eq_true hfound

theorem isPositional_of_long? (h : level.long? name = some arg) : arg.isPositional = false := by
  unfold long? at h
  have hfound := List.find?_some h
  rw [Bool.and_eq_true, Bool.not_eq_true'] at hfound
  exact hfound.1

theorem isPositional_of_short? (h : level.short? letter = some arg) :
    arg.isPositional = false := by
  rw [Arg.isPositional, short_of_short? h, Option.isNone_some, Bool.and_false]

/-- A command that a level finds, and that is not the command `help`, is a subcommand. -/
theorem subcommand?_of_command? {calledBy : Option String} {above : Inheritance}
    {command sub : Command} {word : String}
    (hcommand : (Level.ofCommand calledBy above command).command? word = some sub)
    (hhelp : (Level.ofCommand calledBy above command).isHelp sub = false) :
    command.subcommand? word = some sub := by
  unfold Level.command? Level.commands at hcommand
  rw [List.find?_append, Option.or_eq_some_iff] at hcommand
  rcases hcommand with hfound | ⟨-, hfound⟩
  · exact hfound
  · -- only the command `help` stands behind the subcommands
    have hmem := List.mem_of_find?_eq_some hfound
    split at hmem
    · next hoffers =>
      rw [List.mem_singleton.1 hmem, Level.isHelp, hoffers] at hhelp
      cases hhelp
    · cases hmem

section

variable {calledBy : Option String} {above : Inheritance} {command : Command}

theorem mem_args_of_own (h : arg ∈ command.spec.args) :
    arg ∈ (Level.ofCommand calledBy above command).args :=
  List.mem_append_left _ (List.mem_append_left _ (List.mem_append_left _ h))

/-- Where no id that is handed down is declared anew, the arguments of a level are its own, those
handed down, and the automatic flags. -/
theorem mem_argsOf_iff {spec : CommandSpec}
    (hnew : ∀ old ∈ above.globals, ∀ own ∈ spec.args, own.id ≠ old.id) :
    arg ∈ argsOf above spec ↔ arg ∈ spec.args ∨ arg ∈ above.globals
      ∨ ((above.hasHelpFlag && spec.hasHelpFlag) = true ∧ arg = helpFlag)
      ∨ (spec.version.isSome = true ∧ arg = versionFlag) := by
  have hinherited : above.globals.filter (fun old => spec.args.all (·.id ≠ old.id))
      = above.globals := by
    refine List.filter_eq_self.2 fun old hold => List.all_eq_true.2 fun own hown => ?_
    exact decide_eq_true (hnew old hold own hown)
  have hflag : ∀ (has : Bool) (flag : Arg),
      arg ∈ (if has then [flag] else []) ↔ has = true ∧ arg = flag := by
    intro has flag
    cases has with
    | true => simp
    | false => simp
  rw [argsOf, hinherited, List.mem_append, List.mem_append, List.mem_append, hflag, hflag,
    or_assoc, or_assoc]

/-- Where no global option is handed down, all arguments are declared or automatic. -/
theorem mem_args_of_no_globals (habove : above.globals = [])
    (h : arg ∈ (Level.ofCommand calledBy above command).args) :
    arg ∈ command.spec.args ++ [helpFlag, versionFlag] := by
  unfold ofCommand argsOf at h
  rw [habove, List.filter_nil, List.append_nil, List.mem_append, List.mem_append] at h
  rcases h with (hmem | hhelp) | hversion
  · exact List.mem_append_left _ hmem
  · split at hhelp
    · rw [List.mem_singleton.1 hhelp]
      exact List.mem_append_right _ List.mem_cons_self
    · cases hhelp
  · split at hversion
    · rw [List.mem_singleton.1 hversion]
      exact List.mem_append_right _ (List.mem_cons_of_mem _ List.mem_cons_self)
    · cases hversion

/-- Where no global option is handed down or declared, none is handed on. -/
theorem globals_eq_nil (habove : above.globals = [])
    (hown : ∀ arg ∈ command.spec.args, arg.isGlobal = false) :
    (Level.ofCommand calledBy above command).globals = [] := by
  refine List.filter_eq_nil_iff.2 fun arg harg => ?_
  have hnone : ∀ arg ∈ command.spec.args ++ [helpFlag, versionFlag], arg.isGlobal = false :=
    List.forall_mem_append.2 ⟨hown, by decide⟩
  rw [hnone arg (mem_args_of_no_globals habove harg)]
  exact Bool.false_ne_true

end

end Level

end CommandTelemetry
