import CommandTelemetry.Proofs.Command.ClearCommandTheorems
import CommandTelemetry.Proofs.CommandLine.ReaderTheorems

/-!
# States between options

As long as no positional is given a word, reading is in one of few states: it is `Idle` and an
option or a subcommand may follow, it is `Waiting` for the one value of an option, or it is `Doomed`
to end with a fault.

* `Reader.met_of_simple` and `Reader.readCluster_idle` say what becomes of an option where reading
  is idle;
* `Reader.Unsettled` says that what is pending can never be recorded.
-/

namespace CommandTelemetry

namespace Reader

variable {level : Level} {progress next : Progress} {arg : Arg} {parsed : Parsed}

/-- An option or a subcommand may follow. -/
def Idle (progress : Progress) : Prop :=
  progress.collecting = .nothing ∧ progress.trailing = false

/-- The one value of an option follows. -/
structure Waiting (progress : Progress) (arg : Arg) : Prop where
  collecting : progress.collecting = .option arg
  pending : progress.pending = some ⟨arg, []⟩
  trailing : progress.trailing = false
  one : arg.valueCount = .one

/-- A flag that asks for a page is pending. -/
def Doomed (progress : Progress) : Prop :=
  ∃ arg values, progress.pending = some ⟨arg, values⟩ ∧ arg.effectiveAction.shows = true
    ∧ (progress.collecting = .nothing ∨ progress.collecting = .option arg)

/-! ## Occurrences that cannot be settled -/

/-- What is pending cannot be recorded. -/
def Unsettled (level : Level) (progress : Progress) : Prop :=
  ∀ settled, settle level progress ≠ .ok settled

theorem unsettled_of_record {pending : Pending} (hpending : progress.pending = some pending)
    (hrecord : ∀ records, record level progress.records pending.arg pending.values ≠ .ok records) :
    Unsettled level progress := by
  intro settled hsettle
  obtain ⟨hnone, -⟩ | ⟨found, records, hsome, hok, -⟩ := settle_ok hsettle
  · rw [hpending] at hnone
    cases hnone
  · rw [hpending, Option.some.injEq] at hsome
    subst hsome
    exact hrecord records hok

theorem Doomed.unsettled (h : Doomed progress) (level : Level) : Unsettled level progress := by
  obtain ⟨arg, values, hpending, hshows, -⟩ := h
  refine unsettled_of_record hpending fun records hrecord => ?_
  have hhides := (record_ok hrecord).2.1
  rw [hshows] at hhides
  cases hhides

/-- An option without the value that it needs. -/
theorem unsettled_of_missing (hpending : progress.pending = some ⟨arg, []⟩)
    (hleast : 0 < arg.valueCount.least) (level : Level) : Unsettled level progress := by
  refine unsettled_of_record hpending fun records hrecord => ?_
  have hcount := (record_ok hrecord).1
  rw [checkCount_nil hleast] at hcount
  cases hcount

theorem Waiting.least_pos (h : Waiting progress arg) : 0 < arg.valueCount.least := by
  rw [h.one]
  exact Nat.one_pos

theorem Waiting.unsettled (h : Waiting progress arg) (level : Level) :
    Unsettled level progress :=
  unsettled_of_missing h.pending h.least_pos level

theorem Unsettled.occur_ne (h : Unsettled level progress) {values : List String} :
    occur level progress arg values ≠ .ok next := by
  intro hoccur
  obtain ⟨settled, -, hsettled, -⟩ := occur_ok hoccur
  exact h settled hsettled

theorem Unsettled.startCollecting_ne (h : Unsettled level progress) :
    startCollecting level progress arg ≠ .ok next := by
  intro hstart
  obtain ⟨settled, hsettled, -⟩ := startCollecting_ok hstart
  exact h settled hsettled

theorem Unsettled.meetOption_ne (h : Unsettled level progress) {attached : Option String}
    {equals : Bool} : meetOption level progress arg attached equals ≠ .ok next := by
  intro hmeet
  obtain ⟨value, -, hoccur⟩ | ⟨-, hoccur⟩ | ⟨-, hstart⟩ := meetOption_ok hmeet
  · exact h.occur_ne hoccur
  · exact h.occur_ne hoccur
  · exact h.startCollecting_ne hstart

theorem Unsettled.finish_ne (h : Unsettled level progress) {descended : Bool} {top : LevelRecord} :
    finish level progress descended ≠ .ok top := by
  intro hfinish
  obtain ⟨settled, records, hsettled, -⟩ := finish_ok hfinish
  exact h settled hsettled

/-- The first letter of a cluster is an option that ends the cluster or stands alone. -/
theorem readCluster_cons_ok {letter : Char} {rest : List Char}
    (h : readCluster level progress (letter :: rest) = .ok next) :
    ∃ arg, level.short? letter = some arg
      ∧ ((∃ attached equals, (rest = [] → attached = none ∧ equals = false)
            ∧ arg.takesValues = true ∧ meetOption level progress arg attached equals = .ok next)
        ∨ ∃ after, occur level progress arg [] = .ok after
            ∧ (rest = [] → arg.takesValues = true →
              meetOption level progress arg none false = .ok after)
            ∧ readCluster level after rest = .ok next) := by
  unfold readCluster at h
  split at h
  · cases h
  · next arg hshort =>
    refine ⟨arg, hshort, ?_⟩
    split at h
    · next htakes =>
      dsimp only at h
      split at h
      · next hwithout =>
        -- it would take a value after an equals sign only, and goes without
        rw [bind_eq_ok] at h
        obtain ⟨after, hafter, h⟩ := h
        rw [Bool.and_eq_true, Bool.and_eq_true, decide_eq_true_eq] at hwithout
        refine Or.inr ⟨after, hafter, fun _ _ => ?_, h⟩
        rw [meetOption, hwithout.1.1, Bool.true_and, Bool.not_false, if_pos rfl, if_pos hwithout.2]
        exact hafter
      · exact Or.inl ⟨_, _, fun hnil => by rw [hnil]; exact ⟨rfl, rfl⟩, htakes, h⟩
    · next htakes =>
      rw [bind_eq_ok] at h
      obtain ⟨after, hafter, h⟩ := h
      exact Or.inr ⟨after, hafter, fun _ hvalues => absurd hvalues htakes, h⟩

theorem Unsettled.readCluster_ne (h : Unsettled level progress) {letter : Char}
    {rest : List Char} : readCluster level progress (letter :: rest) ≠ .ok next := by
  intro hcluster
  obtain ⟨arg, -, ⟨_, _, -, -, hmeet⟩ | ⟨after, hoccur, -, -⟩⟩ := readCluster_cons_ok hcluster
  · exact h.meetOption_ne hmeet
  · exact h.occur_ne hoccur

/-! ## Where an option or a subcommand follows -/

theorem settle_trailing {settled : Progress} (h : settle level progress = .ok settled) :
    settled.trailing = progress.trailing := by
  obtain ⟨records, rfl⟩ := settle_eq h
  rfl

/-- An option with all its values leaves nothing open. -/
theorem occur_idle {values : List String} (htrailing : progress.trailing = false)
    (h : occur level progress arg values = .ok next) :
    Idle next ∧ arg.effectiveAction.shows = false := by
  obtain ⟨settled, records, hsettled, hrecord, rfl⟩ := occur_ok h
  exact ⟨⟨rfl, (settle_trailing hsettled).trans htrailing⟩, (record_ok hrecord).2.1⟩

/-- An option is met, with the value typed in the same argument, if any. -/
def Met (level : Level) (progress : Progress) (arg : Arg) (attached : Option String)
    (next : Progress) : Prop :=
  (arg.takesValues = true ∧ ∃ equals, meetOption level progress arg attached equals = .ok next)
    ∨ (arg.takesValues = false ∧ attached = none ∧ occur level progress arg [] = .ok next)

/-- After a simple option nothing is open, or its value follows, or a page was asked for. Whether a
value follows is what the tree says of it. -/
theorem met_of_simple {attached : Option String} (hidle : Idle progress) (hsimple : arg.IsSimple)
    (hoption : arg.isPositional = false) (hmet : Met level progress arg attached next) :
    Doomed next ∨ arg.asksForPage = false
      ∧ (Idle next ∧ (attached = none → (FlagSpec.ofArg arg).takesValue = false)
        ∨ Waiting next arg ∧ attached = none ∧ (FlagSpec.ofArg arg).takesValue = true) := by
  cases hpage : arg.asksForPage with
  | true =>
    have hshows := Arg.effectiveAction_of_asksForPage hpage
    -- such a flag can only be recorded later, and never is
    have hoccur : ∀ values, occur level progress arg values ≠ .ok next := fun values h => by
      rw [(occur_idle hidle.2 h).2] at hshows
      cases hshows
    rcases hmet with ⟨-, equals, hmeet⟩ | ⟨-, -, h⟩
    · obtain ⟨value, -, h⟩ | ⟨-, h⟩ | ⟨-, hstart⟩ := meetOption_ok hmeet
      · exact absurd h (hoccur _)
      · exact absurd h (hoccur _)
      · obtain ⟨settled, -, rfl⟩ := startCollecting_ok hstart
        exact Or.inl ⟨arg, [], rfl, hshows, Or.inr rfl⟩
    · exact absurd h (hoccur _)
  | false =>
    refine Or.inr ⟨rfl, ?_⟩
    have hkind := hsimple.2
    rw [hpage, Bool.false_or, Bool.or_eq_true] at hkind
    rcases hkind with hswitch | hvalue
    · obtain ⟨hnone, hflag⟩ := Arg.takesValues_of_isSwitch hswitch
      rcases hmet with ⟨htakes, -⟩ | ⟨-, -, h⟩
      · rw [hnone] at htakes
        cases htakes
      · exact Or.inl ⟨(occur_idle hidle.2 h).1, fun _ => hflag⟩
    · have hone := Arg.valueCount_of_takesOneValue hvalue hoption
      have htakes : arg.takesValues = true := by
        rw [Arg.takesValues, hone]
        rfl
      rcases hmet with ⟨-, equals, hmeet⟩ | ⟨hnone, -, -⟩
      · obtain ⟨value, rfl, h⟩ | ⟨hleast, -⟩ | ⟨hattached, hstart⟩ := meetOption_ok hmeet
        · exact Or.inl ⟨(occur_idle hidle.2 h).1, fun hnone => by cases hnone⟩
        · rw [hone] at hleast
          cases hleast
        · obtain ⟨settled, hsettled, rfl⟩ := startCollecting_ok hstart
          have htrailing : settled.trailing = false := (settle_trailing hsettled).trans hidle.2
          have hflag : (FlagSpec.ofArg arg).takesValue = true := by
            rw [Arg.takesOneValue, Bool.and_eq_true] at hvalue
            exact hvalue.1
          exact Or.inr ⟨⟨rfl, rfl, htrailing, hone⟩, hattached, hflag⟩
      · rw [htakes] at hnone
        cases hnone

/-- After a cluster nothing is open, or a value of its last letter follows, or a page was asked
for. -/
theorem readCluster_idle (hsimple : ∀ arg ∈ level.args, arg.isPositional = false → arg.IsSimple)
    {letters : List Char} (hidle : Idle progress)
    (h : readCluster level progress letters = .ok next) :
    Doomed next ∨ Idle next ∨ ∃ arg, Waiting next arg := by
  induction letters generalizing progress with
  | nil =>
    rw [readCluster, Except.ok.injEq] at h
    subst h
    exact Or.inr (Or.inl hidle)
  | cons letter rest ih =>
    obtain ⟨arg, hshort, ⟨attached, equals, -, htakes, hmeet⟩ | ⟨after, hoccur, -, h⟩⟩ :=
      readCluster_cons_ok h
    · have hoption := Level.isPositional_of_short? hshort
      obtain hdoomed | ⟨-, ⟨hnext, -⟩ | ⟨hwaiting, -⟩⟩ := met_of_simple hidle
        (hsimple arg (Level.mem_of_short? hshort) hoption) hoption (Or.inl ⟨htakes, equals, hmeet⟩)
      · exact Or.inl hdoomed
      · exact Or.inr (Or.inl hnext)
      · exact Or.inr (Or.inr ⟨arg, hwaiting⟩)
    · exact ih (occur_idle hidle.2 hoccur).1 h

/-- What an argument that names no command is where an option may follow. -/
inductive Taken (level : Level) (progress : Progress) : Token → Progress → Prop where
  | terminator : Taken level progress .terminator { progress with trailing := true }
  | long {name : String} {value : Option String} {arg : Arg} {next : Progress}
    (hlong : level.long? name = some arg) (hmet : Met level progress arg value next) :
    Taken level progress (.long name value) next
  | letter {letter : Char} {arg : Arg} {next : Progress} (hshort : level.short? letter = some arg)
    (hmet : Met level progress arg none next) : Taken level progress (.cluster letter []) next
  | letters {first second : Char} {rest : List Char} {next : Progress}
    (h : readCluster level progress (first :: second :: rest) = .ok next) :
    Taken level progress (.cluster first (second :: rest)) next

/-- A letter alone is an option like any other. -/
theorem met_of_readCluster {letter : Char}
    (h : readCluster level progress [letter] = .ok next) :
    ∃ arg, level.short? letter = some arg ∧ Met level progress arg none next := by
  obtain ⟨arg, hshort, ⟨attached, equals, hnil, htakes, hmeet⟩ | ⟨after, hoccur, hmeet, h⟩⟩ :=
    readCluster_cons_ok h
  · obtain ⟨rfl, rfl⟩ := hnil rfl
    exact ⟨arg, hshort, Or.inl ⟨htakes, _, hmeet⟩⟩
  · rw [readCluster, Except.ok.injEq] at h
    subst h
    refine ⟨arg, hshort, ?_⟩
    cases htakes : arg.takesValues with
    | false => exact Or.inr ⟨htakes, rfl, hoccur⟩
    | true => exact Or.inl ⟨htakes, _, hmeet rfl htakes⟩

/-- An option with two dashes that is known to the level, with its value after an equals sign. -/
theorem met_of_turnToken {argument name : String} {value following : Option String}
    (hhyphens : hyphensWelcome progress = false) (htoken : Token.read argument = .long name value)
    (hlong : level.long? name = some arg)
    (h : turnToken level progress argument following = .ok (.stay next)) :
    Met level progress arg value next := by
  unfold turnToken at h
  rw [htoken] at h
  dsimp only at h
  rw [hhyphens, if_neg Bool.false_ne_true, hlong] at h
  dsimp only at h
  cases htakes : arg.takesValues with
  | true =>
    rw [htakes, if_pos rfl, map_eq_ok] at h
    obtain ⟨after, hmeet, hafter⟩ := h
    cases hafter
    exact Or.inl ⟨htakes, _, hmeet⟩
  | false =>
    rw [htakes, if_neg Bool.false_ne_true] at h
    cases value with
    | some value => cases h
    | none =>
      rw [map_eq_ok] at h
      obtain ⟨after, hoccur, hafter⟩ := h
      cases hafter
      exact Or.inr ⟨htakes, rfl, hoccur⟩

theorem Idle.arg?_eq_none (h : Idle progress) : progress.collecting.arg? = none := by
  rw [h.1]
  rfl

/-- An argument that is kept where reading is idle names no command. -/
theorem Idle.turnToken_of_stay (h : Idle progress) {argument : String} {following : Option String}
    (hturn : turn level progress argument following = .ok (.stay next)) :
    turnToken level progress argument following = .ok (.stay next) := by
  rw [turn, if_neg (by rw [h.2]; exact Bool.false_ne_true), h.1] at hturn
  cases hcommand : level.command? argument with
  | none =>
    rw [hcommand] at hturn
    exact hturn
  | some command =>
    rw [hcommand] at hturn
    dsimp only at hturn
    split at hturn
    · cases hturn
    · cases hturn

/-! ## Where a value follows -/

theorem Waiting.turnValue_ok (h : Waiting progress arg) {word : String}
    {following : Option String} {turned : Turn}
    (hturn : turnValue level progress word following = .ok turned) :
    ∃ next, turned = .stay next ∧ Idle next := by
  rw [turnValue, h.collecting] at hturn
  dsimp only at hturn
  -- one value is all that the option takes
  have hfull : arg.valueCount.takesMoreThan
      ((progress.pending.map (·.values)).getD [] ++ [word]).length = false := by
    rw [h.one, h.pending]
    rfl
  rw [hfull, if_neg Bool.false_ne_true, Except.ok.injEq] at hturn
  exact ⟨_, hturn.symm, rfl, h.trailing⟩

/-- An option that waits takes the next argument, unless that makes everything trail. -/
theorem Waiting.turn_ok (h : Waiting progress arg) {argument : String}
    {following : Option String} {turned : Turn}
    (hturn : turn level progress argument following = .ok turned) :
    (∃ next, turned = .stay next ∧ Idle next)
      ∨ turned = .stay { progress with trailing := true } := by
  have hunsettled := h.unsettled level
  rw [turn, if_neg (by rw [h.trailing]; exact Bool.false_ne_true), h.collecting] at hturn
  dsimp only at hturn
  unfold turnToken at hturn
  split at hturn
  · -- two dashes alone are the value where hyphens are welcome
    split at hturn
    · exact Or.inl (h.turnValue_ok hturn)
    · exact Or.inr (Except.ok.inj hturn).symm
  · -- an option with two dashes cannot be met before the value is there
    split at hturn
    · exact Or.inl (h.turnValue_ok hturn)
    · split at hturn
      · split at hturn
        · rw [map_eq_ok] at hturn
          obtain ⟨_, hmeet, -⟩ := hturn
          exact absurd hmeet hunsettled.meetOption_ne
        · split at hturn
          · cases hturn
          · rw [map_eq_ok] at hturn
            obtain ⟨_, hoccur, -⟩ := hturn
            exact absurd hoccur hunsettled.occur_ne
      · split at hturn
        · exact Or.inl (h.turnValue_ok hturn)
        · cases hturn
  · -- nor can a cluster of letters
    split at hturn
    · exact Or.inl (h.turnValue_ok hturn)
    · rw [map_eq_ok] at hturn
      obtain ⟨_, hcluster, -⟩ := hturn
      exact absurd hcluster hunsettled.readCluster_ne
  · exact Or.inl (h.turnValue_ok hturn)

end Reader

end CommandTelemetry
