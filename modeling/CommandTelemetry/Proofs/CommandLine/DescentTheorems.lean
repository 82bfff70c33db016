import CommandTelemetry.Proofs.Command.DistinctCommandTheorems
import CommandTelemetry.Proofs.CommandLine.ParseTheorems

/-!
# The way down to the level that runs

Reading goes down from level to level, and the command of the level where the arguments end is the
one that runs.

* `Reader.innermost` is this level, and how far it has come when the arguments end;
* `Reader.Descent` is the way down to it where no word is left to commands from elsewhere, and
  `Reader.descent_of_read` says that whatever was read has gone such a way;
* `Reader.Descent.moves` and `Reader.Descent.finish_last` say how the level that runs was read.
-/

namespace CommandTelemetry

namespace Parsed

/-- The level that runs. -/
def last (read : Parsed) : LevelRecord := read.levels.getLast (List.cons_ne_nil _ _)

theorem levels_eq (read : Parsed) : read.levels = read.levels.dropLast ++ [read.last] :=
  (List.dropLast_append_getLast _).symm

end Parsed

namespace Reader

/-- The level at which the arguments end, and how far it has come there. -/
def innermost (level : Level) (progress : Progress) : List String → Level × Progress
  | [] => (level, progress)
  | argument :: rest => match turn level progress argument rest.head? with
    | .ok (.stay next) => innermost level next rest
    | .ok (.descend sub) => innermost (level.enter sub) {} rest
    | _ => (level, progress)

theorem mem_helpLevels_self (level : Level) (words : List String) :
    level ∈ helpLevels level words := by
  cases words <;> exact List.mem_cons_self

/-- The level where the arguments end is one of those that they lead through. -/
theorem innermost_mem_levelsMet (level : Level) (progress : Progress) (arguments : List String) :
    (innermost level progress arguments).1 ∈ levelsMet level progress arguments := by
  induction arguments generalizing level progress with
  | nil => exact List.mem_singleton_self level
  | cons argument rest ih =>
    unfold innermost levelsMet
    cases turn level progress argument rest.head? with
    | error stop => exact List.mem_singleton_self level
    | ok turned =>
      cases turned with
      | stay next => exact ih level next
      | descend sub => exact List.mem_cons_of_mem _ (ih (level.enter sub) {})
      | help => exact mem_helpLevels_self level rest
      | external name => exact List.mem_singleton_self level

/-- The way down from a command that has come this far to the level that runs. -/
inductive Descent : Option String → Inheritance → Command → Progress → Parsed → Level →
    Progress → Prop where
  | ended {calledBy : Option String} {above : Inheritance} {command : Command}
    {progress next : Progress} {top : LevelRecord}
    (hmoves : Moves (Level.ofCommand calledBy above command) progress next)
    (hfinish : finish (Level.ofCommand calledBy above command) next false = .ok top) :
    Descent calledBy above command progress ⟨top, []⟩ (Level.ofCommand calledBy above command) next
  | descended {calledBy below : Option String} {above : Inheritance} {command sub : Command}
    {progress next last : Progress} {word : String} {top : LevelRecord} {read : Parsed}
    {inner : Level} (hmoves : Moves (Level.ofCommand calledBy above command) progress next)
    (hsub : command.subcommand? word = some sub)
    (hhelp : (Level.ofCommand none above command).isHelp sub = false)
    (hbelow : Descent below (command.handsOn above sub) sub {} read inner last)
    (hname : read.top.command = sub.spec.name)
    (hfinish : finish (Level.ofCommand calledBy above command) next true = .ok top) :
    Descent calledBy above command progress ⟨top, read.levels⟩ inner last

variable {calledBy : Option String} {above : Inheritance} {command : Command}
  {progress next last : Progress} {read : Parsed} {inner : Level}

theorem Descent.after (hmoves : Moves (Level.ofCommand calledBy above command) progress next)
    (h : Descent calledBy above command next read inner last) :
    Descent calledBy above command progress read inner last := by
  cases h with
  | ended hrest hfinish => exact .ended (hmoves.trans hrest) hfinish
  | descended hrest hsub hhelp hbelow hname hfinish =>
    exact .descended (hmoves.trans hrest) hsub hhelp hbelow hname hfinish

/-- Whatever was read has gone down to the level that runs. -/
theorem descent_of_read (hapart : command.LeadsApart) {arguments : List String}
    (hread : Reader.read (Level.ofCommand calledBy above command) progress arguments = .ok read) :
    Descent calledBy above command progress read
      (innermost (Level.ofCommand calledBy above command) progress arguments).1
      (innermost (Level.ofCommand calledBy above command) progress arguments).2 := by
  induction arguments generalizing above command calledBy progress read with
  | nil =>
    obtain ⟨top, hfinish, rfl⟩ := read_nil_ok hread
    exact .ended .refl hfinish
  | cons argument rest ih =>
    obtain ⟨next, hturn, hturned, hrest⟩ |
      ⟨sub, below, top, hturn, hcommand, hhelp, hbelow, hfinish, rfl⟩ |
      ⟨_, _, -, hexternal, -⟩ := read_cons_ok hread
    · simp only [innermost, hturn]
      exact (ih hapart hrest).after hturned.moves
    · have hsub := Level.subcommand?_of_command? hcommand hhelp
      have hmem : sub ∈ command.subcommands := List.mem_of_find?_eq_some hsub
      have hname : below.top.command = sub.spec.name := read_command hbelow
      simp only [innermost, hturn]
      exact .descended .refl hsub hhelp (ih (hapart.ofSubcommand hmem) hbelow) hname hfinish
    · have hsame : command.spec.allowsExternal = true := hexternal
      rw [hapart.allowsExternal] at hsame
      cases hsame

/-- The level that runs starts at nothing, unless it is the first one. -/
theorem Descent.moves (h : Descent calledBy above command progress read inner last)
    (hstart : Moves (Level.ofCommand calledBy above command) {} progress) :
    Moves inner {} last := by
  induction h with
  | ended hmoves _ => exact hstart.trans hmoves
  | descended _ _ _ _ _ _ ih => exact ih .refl

/-- The last records are those of the level that runs. -/
theorem Descent.finish_last (h : Descent calledBy above command progress read inner last) :
    finish inner last false = .ok read.last := by
  induction h with
  | ended _ hfinish => exact hfinish
  | descended _ _ _ _ _ _ ih =>
    rw [ih]
    rfl

/-- The level that runs is consistent. -/
theorem isConsistent_innermost {argv : List String} {parsed : Parsed}
    (hparse : command.parse argv = .ok parsed) :
    (innermost (command.outermost argv.head?) {} argv.tail).1.isConsistent = true :=
  (Command.parse_ok hparse).1 _ (innermost_mem_levelsMet _ _ _)

/-- What was parsed is what was read on the way down, with its global options shared. -/
theorem exists_descent_of_parse {argv : List String} {parsed : Parsed} (h : command.LeadsApart)
    (hparse : command.parse argv = .ok parsed) :
    ∃ inner last read,
      innermost (command.outermost argv.head?) {} argv.tail = (inner, last)
      ∧ Reader.read (command.outermost argv.head?) {} argv.tail = .ok read
      ∧ parsed = Globals.share read
      ∧ Descent (Command.programName? argv.head?) {} command {} read inner last := by
  obtain ⟨-, read, hread, rfl⟩ := Command.parse_ok hparse
  exact ⟨_, _, read, rfl, hread, rfl, descent_of_read h hread⟩

end Reader

end CommandTelemetry
