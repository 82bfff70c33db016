import CommandTelemetry.Proofs.CommandLine.ReaderTheorems

/-!
# What is recorded

Everything that is recorded at a level belongs to an argument of the level and was checked against
it, whatever was typed and in which order.

* `Match.Fits` is what holds of one record, `Progress.Fits` is kept by every change of how
  far reading has come, and `LevelRecord.Fits` holds of a level that ended;
* `Reader.Reads` says which levels can follow each other, and `Reader.reads_of_read` that whatever
  was read has this shape.
-/

namespace CommandTelemetry

/-- The values of a record are allowed by arguments of its id, and there are some if every argument
of that id needs one. -/
structure Match.Fits (args : List Arg) (record : Match) : Prop where
  allowed : ∀ value ∈ record.values,
    ∃ arg ∈ args, arg.id = record.id ∧ Reader.checkValue arg value = .ok ()
  needed : (∀ arg ∈ args, arg.id = record.id → 0 < arg.valueCount.least) → record.values ≠ []

/-- What is known of a level that ended. -/
structure LevelRecord.Fits (level : Level) (top : LevelRecord) : Prop where
  command : top.command = level.spec.name
  globalIds : top.globalIds = level.globals.map (·.id)
  records : ∀ record ∈ top.records, record.Fits level.args
  defaults : ∀ arg ∈ level.args, arg.effectiveDefaults ≠ [] →
    (top.records.get? arg.id).isSome = true
  required : ∀ arg ∈ level.args, arg.isRequired = true → top.records.isTyped arg.id = true

/-- What is known of a level that arguments are read at. -/
structure Progress.Fits (level : Level) (progress : Progress) : Prop where
  records : ∀ record ∈ progress.records, record.Fits level.args
  pending : ∀ pending, progress.pending = some pending → pending.arg ∈ level.args
  collecting : ∀ arg, progress.collecting = .option arg → arg ∈ level.args

namespace Reader

variable {level : Level} {progress next : Progress} {records after : Matches} {arg : Arg}

/-! ## Records -/

theorem mem_put {record new : Match} (h : record ∈ records.put new) :
    record ∈ records ∨ record = new := by
  unfold Matches.put at h
  split at h
  · obtain ⟨old, hold, rfl⟩ := List.mem_map.1 h
    split
    · exact Or.inr rfl
    · exact Or.inl hold
  · rcases List.mem_append.1 h with hold | hnew
    · exact Or.inl hold
    · exact Or.inr (List.mem_singleton.1 hnew)

theorem ne_nil_of_checkCount {values : List String} (h : checkCount arg values = .ok ())
    (hleast : 0 < arg.valueCount.least) : values ≠ [] := by
  rintro rfl
  rw [checkCount_nil hleast] at h
  cases h

/-- What was typed for an argument stands in a record of it. -/
theorem mem_typedValues {id value : String} (h : value ∈ CommandNode.typedValues records id) :
    ∃ old ∈ records, old.id = id ∧ value ∈ old.values := by
  unfold CommandNode.typedValues at h
  cases htyped : (records.get? id).filter (·.source = .commandLine) with
  | none => simp [htyped] at h
  | some old =>
    rw [htyped] at h
    obtain ⟨hold, -⟩ := Option.filter_eq_some_iff.1 htyped
    exact ⟨old, List.mem_of_find?_eq_some hold, by simpa using List.find?_some hold, h⟩

/-- One more occurrence keeps all records fit. -/
theorem fits_of_record {values : List String} (harg : arg ∈ level.args)
    (hrecords : ∀ record ∈ records, record.Fits level.args)
    (h : record level records arg values = .ok after) :
    ∀ record ∈ after, record.Fits level.args := by
  obtain ⟨hcount, -, kept, hchecked, hkept, hafter⟩ := record_ok h
  have hneeded : (∀ other ∈ level.args, other.id = arg.id → 0 < other.valueCount.least) →
      kept ≠ [] := by
    intro hleast
    have hvalues := ne_nil_of_checkCount hcount (hleast arg harg rfl)
    rw [hkept hvalues]
    exact flatMap_splitValue_ne_nil hvalues arg
  have hnew : Match.Fits level.args ⟨arg.id, .commandLine, kept⟩ :=
    ⟨fun value hvalue => ⟨arg, harg, rfl, hchecked value hvalue⟩, hneeded⟩
  obtain rfl | ⟨-, rfl⟩ | ⟨-, rfl⟩ := hafter
  · -- values from before were fit for their record
    intro record hrecord
    rcases mem_put hrecord with hold | rfl
    · exact hrecords record hold
    · constructor
      · intro value hvalue
        rcases List.mem_append.1 hvalue with hfirst | hlast
        · obtain ⟨old, hold, hid, hmem⟩ := mem_typedValues hfirst
          obtain ⟨other, hother, hsame, hcheck⟩ := (hrecords old hold).allowed value hmem
          exact ⟨other, hother, hsame.trans hid, hcheck⟩
        · exact ⟨arg, harg, rfl, hchecked value hlast⟩
      · intro hleast
        exact List.append_ne_nil_of_right_ne_nil _ (hneeded hleast)
  · -- the new record stands alone for its argument
    intro record hrecord
    rcases List.mem_append.1 hrecord with hold | hlast
    · exact hrecords record (List.mem_filter.1 hold).1
    · rw [List.mem_singleton.1 hlast]
      exact hnew
  · -- the new record follows all others
    intro record hrecord
    rcases List.mem_append.1 hrecord with hold | hlast
    · exact hrecords record hold
    · rw [List.mem_singleton.1 hlast]
      exact hnew

/-! ## Progress at a level -/

theorem fits_start (level : Level) : Progress.Fits level {} where
  records _ h := by cases h
  pending _ h := by cases h
  collecting _ h := by cases h

theorem fits_of_settle (h : progress.Fits level) (hsettle : settle level progress = .ok next) :
    next.Fits level := by
  obtain ⟨-, rfl⟩ | ⟨pending, records, hpending, hrecord, rfl⟩ := settle_ok hsettle
  · exact h
  · refine ⟨fits_of_record (h.pending pending hpending) h.records hrecord, ?_, h.collecting⟩
    intro pending hnone
    cases hnone

/-- No change of how far reading has come records what does not fit. -/
theorem fits_of_move {word : Option String} (h : progress.Fits level)
    (hmove : Move level word progress next) : next.Fits level := by
  cases hmove with
  | occur harg _ hoccur =>
    obtain ⟨settled, records, hsettled, hrecord, rfl⟩ := occur_ok hoccur
    have hfits := fits_of_settle h hsettled
    exact ⟨fits_of_record harg hfits.records hrecord, hfits.pending, fun _ hnone => by cases hnone⟩
  | start harg _ _ hstart =>
    obtain ⟨settled, hsettled, rfl⟩ := startCollecting_ok hstart
    have hfits := fits_of_settle h hsettled
    refine ⟨hfits.records, ?_, ?_⟩
    · intro pending hpending
      cases hpending
      exact harg
    · intro arg hcollecting
      cases hcollecting
      exact harg
  | terminator => exact ⟨h.records, h.pending, h.collecting⟩
  | value values collecting harg hcollecting =>
    have hmem := h.collecting _ harg
    refine ⟨h.records, ?_, ?_⟩
    · intro pending hpending
      cases hpending
      exact hmem
    · intro other hother
      rcases hcollecting with rfl | rfl
      · cases hother
        exact hmem
      · cases hother
  | give hplace _ hgive =>
    obtain ⟨settled, hsettled, rfl⟩ := give_ok hgive
    have hfits : settled.Fits level := by
      rcases hsettled with ⟨rfl, -⟩ | hsettled
      · exact h
      · exact fits_of_settle h hsettled
    refine ⟨hfits.records, ?_, ?_⟩
    · intro pending hpending
      cases hpending
      exact (List.mem_filter.1 (List.mem_of_getElem? hplace)).1
    · intro other hother
      dsimp only at hother
      split at hother
      · cases hother
      · cases hother

theorem fits_of_moves (h : progress.Fits level) (hmoves : Moves level progress next) :
    next.Fits level := by
  induction hmoves with
  | refl => exact h
  | tail _ hmove ih =>
    obtain ⟨word, hmove⟩ := hmove
    exact fits_of_move ih hmove

/-! ## Levels that end -/

/-- Defaults are added behind what is recorded, and every argument that has some gets a record. -/
theorem addDefaults_ok {args : List Arg}
    (h : args.foldlM (addDefault level) records = .ok after) :
    (∀ id, (records.get? id).isSome = true → (after.get? id).isSome = true)
      ∧ (∀ record ∈ after, record ∈ records ∨ ∃ arg ∈ args, record.id = arg.id
          ∧ record.values ≠ [] ∧ ∀ value ∈ record.values, checkValue arg value = .ok ())
      ∧ ∀ arg ∈ args, arg.effectiveDefaults ≠ [] → (after.get? arg.id).isSome = true := by
  induction args generalizing records with
  | nil =>
    rw [List.foldlM_nil, pure_eq_ok] at h
    subst h
    exact ⟨fun _ hsome => hsome, fun _ hrecord => Or.inl hrecord, fun _ harg => by cases harg⟩
  | cons arg rest ih =>
    rw [List.foldlM_cons, bind_eq_ok] at h
    obtain ⟨middle, hmiddle, h⟩ := h
    obtain ⟨hkept, horigin, hdefaults⟩ := ih h
    obtain ⟨rfl, hdone⟩ | ⟨values, hvalues, hchecked, -, rfl⟩ := addDefault_ok hmiddle
    · -- no default is needed, or there is none
      refine ⟨hkept, ?_, ?_⟩
      · intro record hrecord
        obtain hold | ⟨other, hother, hfit⟩ := horigin record hrecord
        · exact Or.inl hold
        · exact Or.inr ⟨other, List.mem_cons_of_mem _ hother, hfit⟩
      · intro other hother hneeded
        rcases List.mem_cons.1 hother with rfl | hother
        · exact hkept _ (hdone.resolve_right hneeded)
        · exact hdefaults other hother hneeded
    · -- the default stands behind all that was there before
      refine ⟨?_, ?_, ?_⟩
      · intro id hsome
        apply hkept
        rw [Matches.get?, List.find?_append, Option.isSome_or, ← Matches.get?, hsome, Bool.true_or]
      · intro record hrecord
        obtain hold | ⟨other, hother, hfit⟩ := horigin record hrecord
        · rcases List.mem_append.1 hold with hfirst | hlast
          · exact Or.inl hfirst
          · rw [List.mem_singleton.1 hlast]
            exact Or.inr ⟨arg, List.mem_cons_self, rfl, hvalues, hchecked⟩
        · exact Or.inr ⟨other, List.mem_cons_of_mem _ hother, hfit⟩
      · intro other hother hneeded
        rcases List.mem_cons.1 hother with rfl | hother
        · apply hkept
          rw [Matches.get?, List.find?_append, Option.isSome_or, List.find?_singleton]
          simp
        · exact hdefaults other hother hneeded

theorem fits_of_finish {descended : Bool} {top : LevelRecord} (h : progress.Fits level)
    (hfinish : finish level progress descended = .ok top) : top.Fits level := by
  obtain ⟨settled, records, hsettled, hdefaults, -, hrequired, rfl⟩ := finish_ok hfinish
  have hfits := fits_of_settle h hsettled
  obtain ⟨-, horigin, hpresent⟩ := addDefaults_ok hdefaults
  refine ⟨rfl, rfl, ?_, hpresent, hrequired⟩
  intro record hrecord
  obtain hold | ⟨arg, harg, hid, hne, hchecked⟩ := horigin record hrecord
  · exact hfits.records record hold
  · exact ⟨fun value hvalue => ⟨arg, harg, hid.symm, hchecked value hvalue⟩, fun _ => hne⟩

/-! ## Levels one below the other -/

/-- The shape of a command line that was read at a level and those below it. -/
inductive Reads : Level → Parsed → Prop where
  | ended {level : Level} {top : LevelRecord} (htop : top.Fits level)
    (hend : level.spec.subcommandRequired = false) : Reads level ⟨top, []⟩
  | descended {level : Level} {word : String} {sub : Command} {below : Parsed} {top : LevelRecord}
    (hsub : level.command? word = some sub) (hhelp : level.isHelp sub = false)
    (hbelow : Reads (level.enter sub) below) (htop : top.Fits level) :
    Reads level ⟨top, below.levels⟩
  | external {level : Level} {name : String} {top : LevelRecord}
    (hexternal : level.spec.allowsExternal = true) (htop : top.Fits level) :
    Reads level ⟨top, [⟨name, [], [], []⟩]⟩

/-- Whatever was read has this shape. -/
theorem reads_of_read {arguments : List String} {parsed : Parsed} (h : progress.Fits level)
    (hread : Reader.read level progress arguments = .ok parsed) : Reads level parsed := by
  induction arguments generalizing level progress parsed with
  | nil =>
    obtain ⟨top, hfinish, rfl⟩ := read_nil_ok hread
    obtain ⟨_, _, -, -, hend, -⟩ := finish_ok hfinish
    exact .ended (fits_of_finish h hfinish) (hend rfl)
  | cons argument rest ih =>
    obtain ⟨next, -, hturned, hread⟩ | ⟨sub, below, top, -, hsub, hhelp, hbelow, hfinish, rfl⟩ |
      ⟨name, top, -, hexternal, hfinish, rfl⟩ := read_cons_ok hread
    · exact ih (fits_of_moves h hturned.moves) hread
    · exact .descended hsub hhelp (ih (fits_start _) hbelow) (fits_of_finish h hfinish)
    · exact .external hexternal (fits_of_finish h hfinish)

/-- Below a command that leaves no word to others stands nothing, or one of its subcommands. -/
theorem Reads.ofCommand {calledBy : Option String} {above : Inheritance} {command : Command}
    {parsed : Parsed} (h : Reads (Level.ofCommand calledBy above command) parsed)
    (hexternal : command.spec.allowsExternal = false) :
    parsed.top.Fits (Level.ofCommand calledBy above command)
      ∧ ((parsed.below = [] ∧ command.spec.subcommandRequired = false)
        ∨ ∃ sub ∈ command.subcommands, ∃ below, parsed.below = below.levels
            ∧ Reads ((Level.ofCommand calledBy above command).enter sub) below) := by
  cases h with
  | ended htop hend => exact ⟨htop, Or.inl ⟨rfl, hend⟩⟩
  | @descended _ word sub below _ hsub hhelp hbelow htop =>
    have hfound := Level.subcommand?_of_command? hsub hhelp
    exact ⟨htop, Or.inr ⟨sub, List.mem_of_find?_eq_some hfound, below, rfl, hbelow⟩⟩
  | external hallowed htop =>
    have hsame : command.spec.allowsExternal = true := hallowed
    rw [hexternal] at hsame
    cases hsame

/-- Below a command without subcommands stands nothing. -/
theorem Reads.ofLeaf {calledBy : Option String} {above : Inheritance} {command : Command}
    {parsed : Parsed} (h : Reads (Level.ofCommand calledBy above command) parsed)
    (hleaf : command.subcommands = []) (hexternal : command.spec.allowsExternal = false) :
    parsed.top.Fits (Level.ofCommand calledBy above command) ∧ parsed.below = [] := by
  obtain ⟨htop, ⟨hnil, -⟩ | ⟨sub, hsub, -⟩⟩ := h.ofCommand hexternal
  · exact ⟨htop, hnil⟩
  · rw [hleaf] at hsub
    cases hsub

/-- A value that was checked is one of those that are allowed. -/
theorem mem_allowedValues_of_checkValue {value : String} (h : checkValue arg value = .ok ())
    (hsome : arg.allowedValues ≠ []) : value ∈ arg.allowedValues := by
  cases hmem : arg.allowedValues.contains value with
  | true => exact List.contains_iff_mem.1 hmem
  | false =>
    rw [checkValue, if_pos ⟨hsome, by rw [hmem]; rfl⟩] at h
    cases h

end Reader

end CommandTelemetry
