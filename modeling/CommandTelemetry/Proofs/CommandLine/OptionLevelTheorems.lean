import CommandTelemetry.Proofs.CommandLine.PlainLevelTheorems

/-!
# Levels that have no positionals

A level with subcommands and without positionals takes options and the names of subcommands, and
nothing else.

* `Reader.taken_of_idle` says what an argument is where reading is idle;
* `Reader.read_waiting` says that the next argument is the value of the option that waits;
* `Reader.read_doomed` and `Reader.read_trailing` say where reading cannot go on.
-/

namespace CommandTelemetry

namespace Reader

variable {level : Level} {progress next : Progress} {arg : Arg} {parsed : Parsed}

/-- A level that takes options and the names of subcommands, and no other words. -/
structure TakesNoWords (level : Level) : Prop where
  noPositionals : level.positionals = []
  noExternal : level.spec.allowsExternal = false

theorem TakesNoWords.guarded (h : TakesNoWords level) (progress : Progress) :
    Guarded level progress := by
  intro _ _ arg harg
  rw [h.noPositionals] at harg
  cases harg

theorem TakesNoWords.plain (h : TakesNoWords level) : PlainLevel level where
  noExternal := h.noExternal
  noDash arg harg := by
    rw [h.noPositionals] at harg
    cases harg
  idsApart arg harg := by
    rw [h.noPositionals] at harg
    cases harg

theorem TakesNoWords.turnPositional_ne (h : TakesNoWords level) {word : String}
    {following : Option String} {turned : Turn} :
    turnPositional level progress word following ≠ .ok turned := by
  unfold turnPositional
  dsimp only
  rw [h.noPositionals, List.getElem?_nil, h.noExternal]
  exact fun hok => by cases hok

/-- After two dashes alone no argument fits. -/
theorem read_trailing (h : TakesNoWords level) (htrailing : progress.trailing = true)
    {arguments : List String} (hread : Reader.read level progress arguments = .ok parsed) :
    arguments = [] := by
  cases arguments with
  | nil => rfl
  | cons argument rest =>
    have hturn : ∀ turned, turn level progress argument rest.head? ≠ .ok turned := by
      intro turned
      rw [turn, if_pos htrailing]
      exact h.turnPositional_ne
    obtain ⟨_, hnext, -⟩ | ⟨_, _, _, hnext, -⟩ | ⟨_, _, hnext, -⟩ := read_cons_ok hread
    · exact absurd hnext (hturn _)
    · exact absurd hnext (hturn _)
    · exact absurd hnext (hturn _)

/-- A flag that asks for a page ends with a fault. -/
theorem read_doomed (h : Doomed progress) (hlevel : TakesNoWords level) {arguments : List String} :
    Reader.read level progress arguments ≠ .ok parsed :=
  read_doomed_of_plain h (hlevel.guarded progress)

/-- Where reading is idle, an argument that names no command is an option or two dashes alone. -/
theorem taken_of_idle (hlevel : TakesNoWords level) (hidle : Idle progress) {argument : String}
    {following : Option String} (h : turn level progress argument following = .ok (.stay next)) :
    Taken level progress (Token.read argument) next := by
  cases kept_of_idle hlevel.plain hidle h with
  | taken htaken => exact htaken
  | word htoken _ =>
    -- there is no positional that a word could be given to
    have hturn := hidle.turnToken_of_stay h
    simp only [turnToken, htoken, turnValue, hidle.1] at hturn
    exact absurd hturn hlevel.turnPositional_ne

/-- The next argument is the value of the option that waits, whatever it looks like. -/
theorem read_waiting (hlevel : TakesNoWords level) (hwaiting : Waiting progress arg)
    {arguments : List String} (h : Reader.read level progress arguments = .ok parsed) :
    ∃ value rest next, arguments = value :: rest ∧ Idle next
      ∧ turn level progress value rest.head? = .ok (.stay next)
      ∧ Reader.read level next rest = .ok parsed :=
  read_waiting_of_plain hlevel.plain hwaiting (hlevel.guarded progress) h

end Reader

end CommandTelemetry
