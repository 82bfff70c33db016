import CommandTelemetry.Proofs.CommandLine.OptionStateTheorems

/-!
# Levels with plain positionals

A level may have positionals beside its subcommands, as long as none of them takes an argument with
a dash in front. Then an option that waits for its value, or that asks for a page, is not passed on
to a positional either.

* `Reader.PlainLevel` is what is asked of a level, `Reader.Guarded` says that no positional goes on
  with what is pending;
* `Reader.read_doomed_of_plain` and `Reader.read_waiting_of_plain` say what follows an option that
  asks for a page, and one that waits for its value.
-/

namespace CommandTelemetry

namespace Reader

variable {level : Level} {progress next : Progress} {arg : Arg} {parsed : Parsed}

/-- A level without words for others, where positionals take no dashes and share no id with an
option that takes values. -/
structure PlainLevel (level : Level) : Prop where
  noExternal : level.spec.allowsExternal = false
  noDash : ∀ arg ∈ level.positionals, arg.allowsHyphens = false ∧ arg.allowsNegativeNumbers = false
  idsApart : ∀ arg ∈ level.positionals, ∀ option ∈ level.args, option.isPositional = false →
    option.takesValues = true → arg.id ≠ option.id

/-- No positional goes on with what is pending. -/
def Guarded (level : Level) (progress : Progress) : Prop :=
  ∀ pending, progress.pending = some pending → ∀ arg ∈ level.positionals, arg.id ≠ pending.arg.id

/-! ## What is pending -/

theorem settle_pending {settled : Progress} (h : settle level progress = .ok settled) :
    settled.pending = none := by
  obtain ⟨records, rfl⟩ := settle_eq h
  rfl

theorem guarded_of_none (h : progress.pending = none) : Guarded level progress := by
  intro pending hpending
  rw [h] at hpending
  cases hpending

theorem guarded_of_occur {values : List String} (h : occur level progress arg values = .ok next) :
    Guarded level next := by
  obtain ⟨settled, records, hsettled, -, rfl⟩ := occur_ok h
  have hnone := settle_pending hsettled
  exact guarded_of_none hnone

/-- An option leaves nothing pending, or itself. -/
theorem guarded_of_meetOption (hlevel : PlainLevel level) (harg : arg ∈ level.args)
    (hoption : arg.isPositional = false) (htakes : arg.takesValues = true)
    {attached : Option String} {equals : Bool}
    (h : meetOption level progress arg attached equals = .ok next) : Guarded level next := by
  obtain ⟨value, -, h⟩ | ⟨-, h⟩ | ⟨-, h⟩ := meetOption_ok h
  · exact guarded_of_occur h
  · exact guarded_of_occur h
  · obtain ⟨settled, -, rfl⟩ := startCollecting_ok h
    intro pending hpending other hother
    cases hpending
    exact hlevel.idsApart other hother arg harg hoption htakes

theorem guarded_of_met (hlevel : PlainLevel level) (harg : arg ∈ level.args)
    (hoption : arg.isPositional = false) {attached : Option String}
    (h : Met level progress arg attached next) : Guarded level next := by
  rcases h with ⟨htakes, equals, hmeet⟩ | ⟨-, -, hoccur⟩
  · exact guarded_of_meetOption hlevel harg hoption htakes hmeet
  · exact guarded_of_occur hoccur

theorem guarded_of_readCluster (hlevel : PlainLevel level) {first : Char} {rest : List Char}
    (h : readCluster level progress (first :: rest) = .ok next) : Guarded level next := by
  induction rest generalizing first progress with
  | nil =>
    obtain ⟨arg, hshort, hmet⟩ := met_of_readCluster h
    exact guarded_of_met hlevel (Level.mem_of_short? hshort) (Level.isPositional_of_short? hshort)
      hmet
  | cons second rest ih =>
    obtain ⟨arg, hshort, ⟨_, _, -, htakes, hmeet⟩ | ⟨after, -, -, h⟩⟩ := readCluster_cons_ok h
    · exact guarded_of_meetOption hlevel (Level.mem_of_short? hshort)
        (Level.isPositional_of_short? hshort) htakes hmeet
    · exact ih h

/-! ## Where reading cannot go on -/

/-- A positional cannot take a word before what is pending is settled. -/
theorem Unsettled.give_ne (h : Unsettled level progress) (hguarded : Guarded level progress)
    (harg : arg ∈ level.positionals) {place : Nat} {word : String} :
    give level progress place arg word ≠ .ok next := by
  intro hgive
  obtain ⟨settled, ⟨-, pending, hpending, hid⟩ | hsettled, -⟩ := give_ok hgive
  · exact hguarded pending hpending arg harg hid.symm
  · exact h settled hsettled

theorem Unsettled.turnPositional_ne (h : Unsettled level progress)
    (hguarded : Guarded level progress) (hlevel : PlainLevel level) {word : String}
    {following : Option String} {turned : Turn} :
    turnPositional level progress word following ≠ .ok turned := by
  intro hturn
  unfold turnPositional at hturn
  dsimp only at hturn
  split at hturn
  · next arg hplace =>
    split at hturn
    · cases hturn
    · rw [map_eq_ok] at hturn
      obtain ⟨next, hgive, -⟩ := hturn
      exact h.give_ne hguarded (List.mem_of_getElem? hplace) hgive
  · rw [hlevel.noExternal, if_neg Bool.false_ne_true] at hturn
    cases hturn

/-- One change keeps a page pending that was asked for. -/
theorem Doomed.move_of_plain {word : Option String} (h : Doomed progress)
    (hguarded : Guarded level progress) (hmove : Move level word progress next) :
    Doomed next ∧ Guarded level next := by
  cases hmove with
  | occur _ _ hoccur => exact absurd hoccur (h.unsettled level).occur_ne
  | start _ _ _ hstart => exact absurd hstart (h.unsettled level).startCollecting_ne
  | terminator => exact ⟨h, hguarded⟩
  | @value _ collects values collecting harg hcollecting =>
    obtain ⟨arg, before, hpending, hshows, hnothing | hoption⟩ := h
    · rw [hnothing] at harg
      cases harg
    · rw [hoption, Collecting.option.injEq] at harg
      subst harg
      refine ⟨⟨_, values, rfl, hshows, hcollecting.symm⟩, fun pending hsome => ?_⟩
      have hsame := hguarded _ hpending
      cases hsome
      exact hsame
  | give hplace _ hgive =>
    exact absurd hgive ((h.unsettled level).give_ne hguarded (List.mem_of_getElem? hplace))

theorem Doomed.moves_of_plain (h : Doomed progress) (hguarded : Guarded level progress)
    (hmoves : Moves level progress next) : Doomed next ∧ Guarded level next := by
  induction hmoves with
  | refl => exact ⟨h, hguarded⟩
  | tail _ hmove ih =>
    obtain ⟨word, hmove⟩ := hmove
    exact ih.1.move_of_plain ih.2 hmove

/-- A flag that asks for a page ends with a fault. -/
theorem read_doomed_of_plain (h : Doomed progress) (hguarded : Guarded level progress)
    {arguments : List String} : Reader.read level progress arguments ≠ .ok parsed := by
  -- the flag stays pending at every argument, and the end of the level has to record it
  induction arguments generalizing progress with
  | nil =>
    intro hread
    obtain ⟨top, hfinish, -⟩ := read_nil_ok hread
    exact (h.unsettled level).finish_ne hfinish
  | cons argument rest ih =>
    intro hread
    obtain ⟨next, -, hturned, hread⟩ | ⟨_, _, _, -, -, -, -, hfinish, -⟩ |
      ⟨_, _, -, -, hfinish, -⟩ := read_cons_ok hread
    · obtain ⟨hdoomed, hguarded⟩ := h.moves_of_plain hguarded hturned.moves
      exact ih hdoomed hguarded hread
    · exact (h.unsettled level).finish_ne hfinish
    · exact (h.unsettled level).finish_ne hfinish

/-- After two dashes alone an option without its value is never settled. -/
theorem read_trailing_of_unsettled (hlevel : PlainLevel level) (h : Unsettled level progress)
    (hguarded : Guarded level progress) (htrailing : progress.trailing = true)
    {arguments : List String} : Reader.read level progress arguments ≠ .ok parsed := by
  intro hread
  cases arguments with
  | nil =>
    obtain ⟨top, hfinish, -⟩ := read_nil_ok hread
    exact h.finish_ne hfinish
  | cons argument rest =>
    obtain ⟨next, hturn, -⟩ | ⟨_, _, _, -, -, -, -, hfinish, -⟩ | ⟨_, _, -, -, hfinish, -⟩ :=
      read_cons_ok hread
    · rw [turn, if_pos htrailing] at hturn
      exact h.turnPositional_ne hguarded hlevel hturn
    · exact h.finish_ne hfinish
    · exact h.finish_ne hfinish

/-- The next argument is the value of the option that waits, whatever it looks like. -/
theorem read_waiting_of_plain (hlevel : PlainLevel level) (hwaiting : Waiting progress arg)
    (hguarded : Guarded level progress) {arguments : List String}
    (h : Reader.read level progress arguments = .ok parsed) :
    ∃ value rest next, arguments = value :: rest ∧ Idle next
      ∧ turn level progress value rest.head? = .ok (.stay next)
      ∧ Reader.read level next rest = .ok parsed := by
  cases arguments with
  | nil =>
    obtain ⟨top, hfinish, -⟩ := read_nil_ok h
    exact absurd hfinish (hwaiting.unsettled level).finish_ne
  | cons value rest =>
    obtain ⟨next, hturn, -, hread⟩ | ⟨_, _, _, -, -, -, -, hfinish, -⟩ | ⟨_, _, -, -, hfinish, -⟩ :=
      read_cons_ok h
    · obtain ⟨_, hstay, hidle⟩ | hstay := hwaiting.turn_ok hturn
      · cases hstay
        exact ⟨value, rest, next, rfl, hidle, hturn, hread⟩
      · -- nothing may follow, and the option is still without its value
        cases hstay
        have hpending : Progress.pending { progress with trailing := true } = some ⟨arg, []⟩ :=
          hwaiting.pending
        have hunsettled := unsettled_of_missing hpending hwaiting.least_pos level
        exact absurd hread (read_trailing_of_unsettled hlevel hunsettled hguarded rfl)
    · exact absurd hfinish (hwaiting.unsettled level).finish_ne
    · exact absurd hfinish (hwaiting.unsettled level).finish_ne

/-! ## Where an option or a subcommand follows -/

theorem PlainLevel.positionalWelcomesHyphens_eq_false (h : PlainLevel level)
    (progress : Progress) : positionalWelcomesHyphens level progress = false := by
  rw [positionalWelcomesHyphens, Option.any_eq_false]
  intro arg harg
  rw [(h.noDash arg (List.mem_of_getElem? harg)).1, Bool.false_and]

theorem PlainLevel.clusterIsValue_eq_false (h : PlainLevel level) (hidle : Idle progress)
    (letters : List Char) : clusterIsValue level progress letters = false := by
  have hnegative : (nextPositional? level progress).any (fun arg =>
      arg.allowsNegativeNumbers && looksNumeric letters) = false := by
    rw [Option.any_eq_false]
    intro arg harg
    rw [(h.noDash arg (List.mem_of_getElem? harg)).2, Bool.false_and]
  rw [clusterIsValue, hidle.arg?_eq_none, hnegative, h.positionalWelcomesHyphens_eq_false]
  rfl

/-- An argument that is kept where reading is idle names no command. -/
theorem Idle.command?_eq_none (h : Idle progress) {argument : String} {following : Option String}
    (hturn : turn level progress argument following = .ok (.stay next)) :
    level.command? argument = none := by
  rw [turn, if_neg (by rw [h.2]; exact Bool.false_ne_true), h.1] at hturn
  cases hcommand : level.command? argument with
  | none => rfl
  | some command =>
    rw [hcommand] at hturn
    dsimp only at hturn
    split at hturn
    · cases hturn
    · cases hturn

/-- What an argument is that is kept where an option may follow: two dashes alone, an option, or a
word that names no command. -/
inductive Kept (level : Level) (progress : Progress) (argument : String) (next : Progress) : Prop
  where
  | taken (h : Taken level progress (Token.read argument) next)
  | word (h : Token.read argument = .word argument) (hcommand : level.command? argument = none)

theorem kept_of_idle (hlevel : PlainLevel level) (hidle : Idle progress) {argument : String}
    {following : Option String} (h : turn level progress argument following = .ok (.stay next)) :
    Kept level progress argument next := by
  have hhyphens : hyphensWelcome progress = false := by
    rw [hyphensWelcome, hidle.arg?_eq_none, Option.any_none]
  have hturn := hidle.turnToken_of_stay h
  cases htoken : Token.read argument with
  | terminator =>
    simp only [turnToken, htoken, hhyphens, Bool.false_eq_true, if_false, Except.ok.injEq,
      Turn.stay.injEq] at hturn
    subst hturn
    exact .taken (htoken ▸ .terminator)
  | long name value =>
    refine .taken (htoken ▸ ?_)
    cases hlong : level.long? name with
    | some arg => exact .long hlong (met_of_turnToken hhyphens htoken hlong hturn)
    | none =>
      simp only [turnToken, htoken, hhyphens, hlong, Bool.false_eq_true, if_false,
        hlevel.positionalWelcomesHyphens_eq_false] at hturn
      cases hturn
  | cluster first rest =>
    refine .taken (htoken ▸ ?_)
    simp only [turnToken, htoken, hlevel.clusterIsValue_eq_false hidle, Bool.false_eq_true,
      if_false, map_eq_ok] at hturn
    obtain ⟨after, hread, hafter⟩ := hturn
    cases hafter
    cases rest with
    | nil =>
      obtain ⟨arg, hshort, hmet⟩ := met_of_readCluster hread
      exact .letter hshort hmet
    | cons second rest => exact .letters hread
  | word word =>
    have hsame : word = argument := by
      have htext := Token.text_read argument
      rw [htoken] at htext
      exact htext
    exact .word (hsame ▸ htoken) (hidle.command?_eq_none h)

end Reader

end CommandTelemetry
