import CommandTelemetry.CommandLine.Parse
import CommandTelemetry.Invocation.Reported
import CommandTelemetry.Proofs.CommandLine.LevelTheorems
import CommandTelemetry.Proofs.ExceptTheorems
import Mathlib.Logic.Relation

/-!
# What reading a command line can do

Reading is a long function with many ends. This file says once what each part of it does when it
does not stop with a fault, so that nothing else has to open it:

* `Reader.record_ok`, `settle_ok`, `occur_ok` and `startCollecting_ok` for occurrences of options;
* `Reader.Move` is one change of how far reading has come at a level, and `Reader.turn_ok` says that
  an argument which is kept at a level is taken as a word or makes changes that take none;
* `Reader.finish_ok` for the end of a level;
* `Reader.read_cons_ok` for a whole level, argument by argument.
-/

namespace CommandTelemetry

namespace Reader

/-! ## Occurrences -/

variable {level : Level} {progress next : Progress} {records : Matches} {arg : Arg}

/-- A typed value comes to at least one value. -/
theorem splitValue_ne_nil (arg : Arg) (value : String) : splitValue arg value ≠ [] := by
  unfold splitValue
  split
  · exact List.cons_ne_nil _ _
  · intro h
    exact Text.splitWhere_ne_nil _ _ (List.map_eq_nil_iff.1 h)

theorem flatMap_splitValue_ne_nil {values : List String} (h : values ≠ []) (arg : Arg) :
    values.flatMap (splitValue arg) ≠ [] := by
  obtain ⟨value, rest, rfl⟩ := List.exists_cons_of_ne_nil h
  rw [List.flatMap_cons]
  exact fun hnil => splitValue_ne_nil arg value (List.append_eq_nil_iff.1 hnil).1

/-- An occurrence without values is refused where a value is needed. -/
theorem checkCount_nil (h : 0 < arg.valueCount.least) :
    checkCount arg [] = .error (.fault (.missingValue arg)) := by
  rw [checkCount]
  exact if_pos ⟨rfl, h⟩

/-- A new occurrence replaces the record of its argument or follows all others; a list is made
longer and everything else starts anew. -/
theorem record_ok {values : List String} {after : Matches}
    (h : record level records arg values = .ok after) :
    checkCount arg values = .ok () ∧ arg.effectiveAction.shows = false
      ∧ ∃ kept, (∀ value ∈ kept, checkValue arg value = .ok ())
        ∧ (values ≠ [] → kept = values.flatMap (splitValue arg))
        ∧ (after = records.put
              ⟨arg.id, .commandLine, CommandNode.typedValues records arg.id ++ kept⟩
          ∨ arg.effectiveAction = .count
            ∧ after = records.drop arg.id ++ [⟨arg.id, .commandLine, kept⟩]
          ∨ records.isTyped arg.id = false
            ∧ after = records ++ [⟨arg.id, .commandLine, kept⟩]) := by
  have hkept : values ≠ [] → occurrenceValues arg values = values.flatMap (splitValue arg) := by
    intro hvalues
    rw [occurrenceValues, if_neg hvalues]
  unfold record at h
  rw [bind_eq_ok] at h
  obtain ⟨⟨⟩, hcount, h⟩ := h
  simp only [check_eq_ok] at h
  obtain ⟨hshows, h⟩ := h
  refine ⟨hcount, Bool.not_eq_true _ ▸ hshows, ?_⟩
  split at h
  · -- a list
    rw [bind_eq_ok] at h
    obtain ⟨⟨⟩, hvalues, h⟩ := h
    exact ⟨_, forM_eq_ok.1 hvalues, hkept, Or.inl (pure_eq_ok.1 h).symm⟩
  · -- a count
    next haction =>
    rw [bind_eq_ok] at h
    obtain ⟨⟨⟩, hvalues, h⟩ := h
    refine ⟨_, forM_eq_ok.1 hvalues, ?_, Or.inr (Or.inl ⟨haction, (pure_eq_ok.1 h).symm⟩)⟩
    intro hne
    have hsome : occurrenceValues arg values ≠ [] := hkept hne ▸ flatMap_splitValue_ne_nil hne arg
    rw [if_neg hsome]
    exact hkept hne
  · -- a setting
    simp only [check_eq_ok] at h
    obtain ⟨hnew, h⟩ := h
    rw [bind_eq_ok] at h
    obtain ⟨⟨⟩, hvalues, h⟩ := h
    have htyped : records.isTyped arg.id = false := by
      rw [Matches.isTyped, ← Option.isSome_filter]
      exact eq_false_of_ne_true hnew
    exact ⟨_, forM_eq_ok.1 hvalues, hkept,
      Or.inr (Or.inr ⟨htyped, (pure_eq_ok.1 h).symm⟩)⟩

/-- Nothing is pending after it is settled. -/
theorem settle_ok (h : settle level progress = .ok next) :
    (progress.pending = none ∧ next = progress)
      ∨ ∃ pending records, progress.pending = some pending
        ∧ record level progress.records pending.arg pending.values = .ok records
        ∧ next = { progress with records, pending := none } := by
  unfold settle at h
  split at h
  · next hnone => exact Or.inl ⟨hnone, (Except.ok.inj h).symm⟩
  · next pending hsome =>
    rw [bind_eq_ok] at h
    obtain ⟨records, hrecords, h⟩ := h
    exact Or.inr ⟨pending, records, hsome, hrecords, (pure_eq_ok.1 h).symm⟩

/-- Settling records what was pending, and leaves everything else as it was. -/
theorem settle_eq (h : settle level progress = .ok next) :
    ∃ records, next = { progress with records, pending := none } := by
  obtain ⟨hnone, rfl⟩ | ⟨pending, records, -, -, rfl⟩ := settle_ok h
  · exact ⟨next.records, by rw [← hnone]⟩
  · exact ⟨records, rfl⟩

theorem occur_ok {values : List String} (h : occur level progress arg values = .ok next) :
    ∃ settled records, settle level progress = .ok settled
      ∧ record level settled.records arg values = .ok records
      ∧ next = { settled with
          records
          collecting := .nothing
          uses := settled.uses ++ [.option arg.id] } := by
  unfold occur at h
  rw [bind_eq_ok] at h
  obtain ⟨settled, hsettled, h⟩ := h
  rw [bind_eq_ok] at h
  obtain ⟨records, hrecords, h⟩ := h
  exact ⟨settled, records, hsettled, hrecords, (pure_eq_ok.1 h).symm⟩

theorem startCollecting_ok (h : startCollecting level progress arg = .ok next) :
    ∃ settled, settle level progress = .ok settled
      ∧ next = { settled with
          pending := some ⟨arg, []⟩
          collecting := .option arg
          uses := settled.uses ++ [.option arg.id] } := by
  unfold startCollecting at h
  rw [bind_eq_ok] at h
  obtain ⟨settled, hsettled, h⟩ := h
  exact ⟨settled, hsettled, (pure_eq_ok.1 h).symm⟩

/-- An option that takes values has one at hand, goes without where it may, or waits for the next
argument. -/
theorem meetOption_ok {attached : Option String} {equals : Bool}
    (h : meetOption level progress arg attached equals = .ok next) :
    (∃ value, attached = some value ∧ occur level progress arg [value] = .ok next)
      ∨ (arg.valueCount.least = 0 ∧ occur level progress arg [] = .ok next)
      ∨ (attached = none ∧ startCollecting level progress arg = .ok next) := by
  unfold meetOption at h
  split at h
  · -- an equals sign is needed and there is none
    split at h
    · next hleast => exact Or.inr (Or.inl ⟨hleast, h⟩)
    · cases h
  · split at h
    · next value => exact Or.inl ⟨value, rfl, h⟩
    · exact Or.inr (Or.inr ⟨rfl, h⟩)

/-- A word is given to a positional after what was pending is settled, unless it goes on with it. -/
theorem give_ok {place : Nat} {word : String}
    (h : give level progress place arg word = .ok next) :
    ∃ settled,
      (settled = progress ∧ (∃ pending, progress.pending = some pending ∧ pending.arg.id = arg.id)
        ∨ settle level progress = .ok settled)
      ∧ next = { settled with
          pending := some ⟨arg, (settled.pending.map (·.values)).getD [] ++ [word]⟩
          trailing := settled.trailing || arg.isTrailing
          position := if arg.isMultiple then place else place + 1
          collecting := if arg.isMultiple then .positional arg else .nothing
          uses := settled.uses ++ [.positional arg.id word] } := by
  unfold give at h
  by_cases hgoes : (arg.valueCount.isMultiple && progress.pending.any (·.arg.id = arg.id)) = true
  · simp only [if_pos hgoes, bind_eq_ok] at h
    obtain ⟨settled, hsettled, h⟩ := h
    rw [Bool.and_eq_true, Option.any_eq_true] at hgoes
    obtain ⟨pending, hpending, hid⟩ := hgoes.2
    exact ⟨settled, Or.inl ⟨(Except.ok.inj hsettled).symm, pending, hpending,
      of_decide_eq_true hid⟩, (pure_eq_ok.1 h).symm⟩
  · simp only [if_neg hgoes, bind_eq_ok] at h
    obtain ⟨settled, hsettled, h⟩ := h
    exact ⟨settled, Or.inr hsettled, (pure_eq_ok.1 h).symm⟩

/-! ## Arguments -/

/-- One change of how far reading has come at a level, and the word that a positional takes with
it, if any. -/
inductive Move (level : Level) : Option String → Progress → Progress → Prop where
  /-- An option with all its values. -/
  | occur {progress next : Progress} {arg : Arg} {values : List String} (harg : arg ∈ level.args)
    (hoption : arg.isPositional = false) (h : Reader.occur level progress arg values = .ok next) :
    Move level none progress next
  /-- An option that waits for values. -/
  | start {progress next : Progress} {arg : Arg} (harg : arg ∈ level.args)
    (hoption : arg.isPositional = false) (htakes : arg.takesValues = true)
    (h : startCollecting level progress arg = .ok next) : Move level none progress next
  /-- Two dashes alone. -/
  | terminator (progress : Progress) : Move level none progress { progress with trailing := true }
  /-- A value for the option that waits. -/
  | value {progress : Progress} {arg : Arg} (values : List String) (collecting : Collecting)
    (harg : progress.collecting = .option arg)
    (hcollecting : collecting = .option arg ∨ collecting = .nothing) :
    Move level none progress { progress with pending := some ⟨arg, values⟩, collecting }
  /-- A word for a positional, which is no earlier one unless it is the last. -/
  | give {progress next : Progress} {arg : Arg} {place : Nat} {word : String}
    (hplace : level.positionals[place]? = some arg)
    (hlater : progress.position ≤ place ∨ place + 1 = level.positionals.length)
    (h : Reader.give level progress place arg word = .ok next) :
    Move level (some word) progress next

/-- Any number of changes. -/
abbrev Moves (level : Level) : Progress → Progress → Prop :=
  Relation.ReflTransGen fun progress next => ∃ word, Move level word progress next

/-- What one argument changes: it is taken as a word, or no word is taken. -/
inductive Turned (level : Level) (argument : String) (progress next : Progress) : Prop where
  | word (h : Move level (some argument) progress next)
  | wordless (h : Relation.ReflTransGen (Move level none) progress next)

theorem Turned.moves {argument : String} (h : Turned level argument progress next) :
    Moves level progress next := by
  cases h with
  | word hmove => exact .single ⟨_, hmove⟩
  | wordless hmoves => exact Relation.ReflTransGen.mono (fun _ _ hmove => ⟨none, hmove⟩) _ _ hmoves

theorem meetOption_moves {attached : Option String} {equals : Bool} (harg : arg ∈ level.args)
    (hoption : arg.isPositional = false) (htakes : arg.takesValues = true)
    (h : meetOption level progress arg attached equals = .ok next) :
    Move level none progress next := by
  obtain ⟨value, -, h⟩ | ⟨-, h⟩ | ⟨-, h⟩ := meetOption_ok h
  · exact .occur harg hoption h
  · exact .occur harg hoption h
  · exact .start harg hoption htakes h

theorem readCluster_moves {letters : List Char}
    (h : readCluster level progress letters = .ok next) :
    Relation.ReflTransGen (Move level none) progress next := by
  induction letters generalizing progress with
  | nil =>
    rw [Except.ok.inj h]
  | cons letter rest ih =>
    unfold readCluster at h
    split at h
    · cases h
    · next arg hshort =>
      have harg := Level.mem_of_short? hshort
      have hoption := Level.isPositional_of_short? hshort
      -- every letter but the last one stands alone
      have hoccur : (do readCluster level (← Reader.occur level progress arg []) rest) = .ok next
          → Relation.ReflTransGen (Move level none) progress next := by
        intro h
        rw [bind_eq_ok] at h
        obtain ⟨after, hafter, h⟩ := h
        exact .head (.occur harg hoption hafter) (ih h)
      split at h
      · next htakes =>
        dsimp only at h
        split at h
        · exact hoccur h
        · exact .single (meetOption_moves harg hoption htakes h)
      · exact hoccur h

/-- A word goes to the positional whose turn it is, to the one after it, or to the last one. -/
theorem le_placeFor (level : Level) (progress : Progress) (following : Option String) :
    progress.position ≤ placeFor level progress following
      ∨ placeFor level progress following = level.positionals.length - 1 := by
  unfold placeFor
  split
  · left
    split
    · split
      · exact Nat.le_succ _
      · exact Nat.le_refl _
    · exact Nat.le_succ _
  · split
    · exact Or.inr rfl
    · exact Or.inl (Nat.le_refl _)

theorem turnPositional_ok {word : String} {following : Option String} {turned : Turn}
    (h : turnPositional level progress word following = .ok turned) :
    (∃ next, turned = .stay next ∧ Turned level word progress next)
      ∨ turned = .external word ∧ level.spec.allowsExternal = true := by
  unfold turnPositional at h
  dsimp only at h
  split at h
  · next arg hplace =>
    split at h
    · cases h
    · rw [map_eq_ok] at h
      obtain ⟨next, hnext, rfl⟩ := h
      have hinside := (List.getElem?_eq_some_iff.1 hplace).1
      have hlater : progress.position ≤ placeFor level progress following
          ∨ placeFor level progress following + 1 = level.positionals.length :=
        (le_placeFor level progress following).imp_right fun hlast => by omega
      exact Or.inl ⟨next, rfl, .word (.give hplace hlater hnext)⟩
  · split at h
    · next hexternal => exact Or.inr ⟨(Except.ok.inj h).symm, hexternal⟩
    · cases h

theorem turnValue_ok {word : String} {following : Option String} {turned : Turn}
    (h : turnValue level progress word following = .ok turned) :
    (∃ next, turned = .stay next ∧ Turned level word progress next)
      ∨ turned = .external word ∧ level.spec.allowsExternal = true := by
  unfold turnValue at h
  split at h
  · next arg hcollecting =>
    refine Or.inl ⟨_, (Except.ok.inj h).symm, .wordless (.single (.value _ _ hcollecting ?_))⟩
    split
    · exact Or.inl hcollecting
    · exact Or.inr rfl
  · exact turnPositional_ok h

theorem turnToken_ok {argument : String} {following : Option String} {turned : Turn}
    (h : turnToken level progress argument following = .ok turned) :
    (∃ next, turned = .stay next ∧ Turned level argument progress next)
      ∨ (∃ name, turned = .external name) ∧ level.spec.allowsExternal = true := by
  have hvalue : turnValue level progress argument following = .ok turned →
      (∃ next, turned = .stay next ∧ Turned level argument progress next)
        ∨ (∃ name, turned = .external name) ∧ level.spec.allowsExternal = true := by
    intro h
    obtain hstay | ⟨hturned, hexternal⟩ := turnValue_ok h
    · exact Or.inl hstay
    · exact Or.inr ⟨⟨argument, hturned⟩, hexternal⟩
  unfold turnToken at h
  split at h
  · -- two dashes alone
    split at h
    · exact hvalue h
    · exact Or.inl ⟨_, (Except.ok.inj h).symm, .wordless (.single (.terminator progress))⟩
  · -- an option with two dashes, if the level knows one of that name
    split at h
    · exact hvalue h
    · split at h
      · next arg hlong _ =>
        have harg := Level.mem_of_long? hlong
        have hoption := Level.isPositional_of_long? hlong
        split at h
        · next htakes =>
          rw [map_eq_ok] at h
          obtain ⟨next, hnext, rfl⟩ := h
          have hmove := meetOption_moves harg hoption htakes hnext
          exact Or.inl ⟨next, rfl, .wordless (.single hmove)⟩
        · split at h
          · cases h
          · rw [map_eq_ok] at h
            obtain ⟨next, hnext, rfl⟩ := h
            exact Or.inl ⟨next, rfl, .wordless (.single (.occur harg hoption hnext))⟩
      · split at h
        · exact hvalue h
        · cases h
  · -- a cluster of letters
    split at h
    · exact hvalue h
    · rw [map_eq_ok] at h
      obtain ⟨next, hnext, rfl⟩ := h
      exact Or.inl ⟨next, rfl, .wordless (readCluster_moves hnext)⟩
  · -- anything else is a word, which is the whole argument
    next word htoken =>
    have htext := Token.text_read argument
    rw [htoken] at htext
    have hsame : word = argument := htext
    subst hsame
    exact hvalue h

/-- What an argument comes to if it fits. -/
theorem turn_ok {argument : String} {following : Option String} {turned : Turn}
    (h : turn level progress argument following = .ok turned) :
    (∃ next, turned = .stay next ∧ Turned level argument progress next)
      ∨ (∃ command, turned = .descend command ∧ progress.trailing = false
          ∧ progress.collecting = .nothing ∧ level.command? argument = some command
          ∧ level.isHelp command = false)
      ∨ turned = .help
      ∨ (∃ name, turned = .external name) ∧ level.spec.allowsExternal = true := by
  unfold turn at h
  split at h
  · -- after two dashes alone every argument is a word
    obtain hstay | ⟨hturned, hexternal⟩ := turnPositional_ok h
    · exact Or.inl hstay
    · exact Or.inr (Or.inr (Or.inr ⟨⟨argument, hturned⟩, hexternal⟩))
  · next htrailing =>
    split at h
    · next command hcollecting hcommand =>
      split at h
      · exact Or.inr (Or.inr (Or.inl (Except.ok.inj h).symm))
      · next hhelp =>
        exact Or.inr (Or.inl ⟨command, (Except.ok.inj h).symm, eq_false_of_ne_true htrailing,
          hcollecting, hcommand, eq_false_of_ne_true hhelp⟩)
    · obtain hstay | hexternal := turnToken_ok h
      · exact Or.inl hstay
      · exact Or.inr (Or.inr (Or.inr hexternal))

/-! ## Levels -/

/-- Filling in a default keeps all records and adds at most one. -/
theorem addDefault_ok {after : Matches} (h : addDefault level records arg = .ok after) :
    (after = records ∧ ((records.get? arg.id).isSome = true ∨ arg.effectiveDefaults = []))
      ∨ ∃ values, values ≠ [] ∧ (∀ value ∈ values, checkValue arg value = .ok ())
        ∧ records.get? arg.id = none ∧ after = records ++ [⟨arg.id, .default, values⟩] := by
  unfold addDefault at h
  split at h
  · next hdone =>
    rw [Bool.or_eq_true, decide_eq_true_eq] at hdone
    exact Or.inl ⟨(Except.ok.inj h).symm, hdone⟩
  · next hdone =>
    rw [Bool.or_eq_true, decide_eq_true_eq, not_or] at hdone
    split at h
    · cases h
    · rw [bind_eq_ok] at h
      obtain ⟨⟨⟩, hvalues, h⟩ := h
      exact Or.inr ⟨_, flatMap_splitValue_ne_nil hdone.2 arg, forM_eq_ok.1 hvalues,
        Option.not_isSome_iff_eq_none.1 hdone.1, (pure_eq_ok.1 h).symm⟩

/-- What is known of a level that ended. -/
theorem finish_ok {descended : Bool} {top : LevelRecord}
    (h : finish level progress descended = .ok top) :
    ∃ settled records, settle level progress = .ok settled
      ∧ level.args.foldlM (addDefault level) settled.records = .ok records
      ∧ (descended = false → level.spec.subcommandRequired = false)
      ∧ (∀ arg ∈ level.args, arg.isRequired = true → records.isTyped arg.id = true)
      ∧ top = ⟨level.spec.name, records, level.globals.map (·.id), settled.uses⟩ := by
  unfold finish at h
  rw [bind_eq_ok] at h
  obtain ⟨settled, hsettled, h⟩ := h
  rw [bind_eq_ok] at h
  obtain ⟨records, hrecords, h⟩ := h
  simp only [check_eq_ok] at h
  obtain ⟨-, hrequired, hmissing, h⟩ := h
  refine ⟨settled, records, hsettled, hrecords, ?_, ?_, (pure_eq_ok.1 h).symm⟩
  · intro hdescended
    simpa [hdescended] using hrequired
  · intro arg harg hneeded
    cases htyped : records.isTyped arg.id with
    | true => rfl
    | false =>
      have hmem : arg ∈ level.args.filter fun arg => arg.isRequired && !records.isTyped arg.id :=
        List.mem_filter.2 ⟨harg, by rw [hneeded, htyped]; rfl⟩
      exact absurd (List.ne_nil_of_mem hmem) hmissing

theorem finish_command {descended : Bool} {top : LevelRecord}
    (h : finish level progress descended = .ok top) : top.command = level.spec.name := by
  obtain ⟨settled, records, -, -, -, -, rfl⟩ := finish_ok h
  rfl

theorem finish_globalIds {descended : Bool} {top : LevelRecord}
    (h : finish level progress descended = .ok top) : top.globalIds = level.globals.map (·.id) := by
  obtain ⟨settled, records, -, -, -, -, rfl⟩ := finish_ok h
  rfl

theorem read_nil_ok {parsed : Parsed} (h : Reader.read level progress [] = .ok parsed) :
    ∃ top, finish level progress false = .ok top ∧ parsed = ⟨top, []⟩ := by
  rw [Reader.read, map_eq_ok] at h
  obtain ⟨top, htop, rfl⟩ := h
  exact ⟨top, htop, rfl⟩

/-- After an argument reading goes on at the level, or with a subcommand, or a command from
elsewhere takes the rest. -/
theorem read_cons_ok {argument : String} {rest : List String} {parsed : Parsed}
    (h : Reader.read level progress (argument :: rest) = .ok parsed) :
    (∃ next, turn level progress argument rest.head? = .ok (.stay next)
        ∧ Turned level argument progress next ∧ Reader.read level next rest = .ok parsed)
      ∨ (∃ sub below top, turn level progress argument rest.head? = .ok (.descend sub)
          ∧ level.command? argument = some sub ∧ level.isHelp sub = false
          ∧ Reader.read (level.enter sub) {} rest = .ok below
          ∧ finish level progress true = .ok top ∧ parsed = ⟨top, below.levels⟩)
      ∨ ∃ name top, turn level progress argument rest.head? = .ok (.external name)
          ∧ level.spec.allowsExternal = true ∧ finish level progress true = .ok top
          ∧ parsed = ⟨top, [⟨name, [], [], []⟩]⟩ := by
  rw [Reader.read] at h
  split at h
  · cases h
  · next next hturn =>
    obtain ⟨_, hstay, hturned⟩ | ⟨_, hdescend, -⟩ | hhelp | ⟨⟨_, hexternal⟩, -⟩ := turn_ok hturn
    · -- of the four things that an argument may come to, only one agrees with the turn
      cases hstay
      exact Or.inl ⟨next, hturn, hturned, h⟩
    · cases hdescend
    · cases hhelp
    · cases hexternal
  · cases h
  · next command hturn =>
    rw [bind_eq_ok] at h
    obtain ⟨below, hbelow, h⟩ := h
    rw [bind_eq_ok] at h
    obtain ⟨top, htop, h⟩ := h
    obtain ⟨_, hstay, -⟩ | ⟨_, hdescend, -, -, hcommand, hhelp⟩ | hhelp | ⟨⟨_, hexternal⟩, -⟩ :=
      turn_ok hturn
    · cases hstay
    · cases hdescend
      exact Or.inr (Or.inl ⟨command, below, top, hturn, hcommand, hhelp, hbelow, htop,
        (pure_eq_ok.1 h).symm⟩)
    · cases hhelp
    · cases hexternal
  · next name hturn =>
    rw [bind_eq_ok] at h
    obtain ⟨top, htop, h⟩ := h
    obtain ⟨_, hstay, -⟩ | ⟨_, hdescend, -⟩ | hhelp | ⟨-, hexternal⟩ := turn_ok hturn
    · cases hstay
    · cases hdescend
    · cases hhelp
    · exact Or.inr (Or.inr ⟨name, top, hturn, hexternal, htop, (pure_eq_ok.1 h).symm⟩)

/-- The outermost record is that of the level. -/
theorem read_command {arguments : List String} {parsed : Parsed}
    (h : Reader.read level progress arguments = .ok parsed) :
    parsed.top.command = level.spec.name := by
  induction arguments generalizing progress with
  | nil =>
    obtain ⟨top, htop, rfl⟩ := read_nil_ok h
    exact finish_command htop
  | cons argument rest ih =>
    obtain ⟨next, -, -, h⟩ | ⟨_, _, top, -, -, -, -, htop, rfl⟩ | ⟨_, top, -, -, htop, rfl⟩ :=
      read_cons_ok h
    · exact ih h
    · exact finish_command htop
    · exact finish_command htop

end Reader

end CommandTelemetry
