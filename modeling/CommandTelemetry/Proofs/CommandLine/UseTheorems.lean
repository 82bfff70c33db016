import CommandTelemetry.Proofs.CommandLine.MatchesTheorems
import CommandTelemetry.Proofs.CommandLine.RecordTheorems

/-!
# What was typed is what is recorded

A level keeps a list of how its arguments were used, beside the records that its options and
positionals end up with. The two agree: an argument is recorded as typed just if it was used.

* `Progress.Tallied` is kept by every change of how far reading has come (`Reader.tallied_of_move`);
* `LevelRecord.Tallied` holds of a level that ended (`Reader.tallied_of_finish`), and
  `Reader.nodup_ids_of_read` says for all levels that each argument has one record.
-/

namespace CommandTelemetry

namespace Use

/-- The id of the argument that was used. -/
def id : Use → String
  | option id => id
  | positional id _ => id

end Use

/-- Records that were typed, one for each argument. -/
structure Matches.OnlyTyped (level : Level) (records : Matches) : Prop where
  apart : records.ids.Nodup
  typed : ∀ record ∈ records, record.source = .commandLine
  declared : ∀ id ∈ records.ids,
    ∃ arg ∈ level.args, arg.id = id ∧ arg.effectiveAction.shows = false

/-- Records and uses while a level is read: what was used is recorded or about to be. -/
structure Progress.Counted (level : Level) (progress : Progress) : Prop where
  records : progress.records.OnlyTyped level
  pending : ∀ pending, progress.pending = some pending → pending.arg ∈ level.args
  used : ∀ id, id ∈ progress.uses.map Use.id
    ↔ id ∈ progress.records.ids ∨ ∃ pending, progress.pending = some pending ∧ pending.arg.id = id
  positional : ∀ id value, .positional id value ∈ progress.uses →
    ∃ arg ∈ level.positionals, arg.id = id

/-- The same between two arguments, where an option that collects is pending. -/
structure Progress.Tallied (level : Level) (progress : Progress) : Prop
    extends progress.Counted level where
  collecting : ∀ arg, progress.collecting = .option arg →
    ∃ values, progress.pending = some ⟨arg, values⟩

/-- Records and uses of a level that ended. -/
structure LevelRecord.Tallied (level : Level) (top : LevelRecord) : Prop where
  apart : top.records.ids.Nodup
  used : ∀ id, id ∈ top.uses.map Use.id ↔ top.records.isTyped id = true
  declared : ∀ id, top.records.isTyped id = true →
    ∃ arg ∈ level.args, arg.id = id ∧ arg.effectiveAction.shows = false
  positional : ∀ id value, .positional id value ∈ top.uses →
    ∃ arg ∈ level.positionals, arg.id = id
  globalIds : top.globalIds = level.globals.map (·.id)

namespace Reader

variable {level : Level} {progress next settled : Progress} {records after : Matches} {arg : Arg}

/-! ## Occurrences -/

/-- One more occurrence leaves each argument with one record, and adds the id of its argument. -/
theorem onlyTyped_of_record {values : List String} (h : records.OnlyTyped level)
    (harg : arg ∈ level.args) (hrecord : record level records arg values = .ok after) :
    after.OnlyTyped level ∧ ∀ id, id ∈ after.ids ↔ id ∈ records.ids ∨ id = arg.id := by
  obtain ⟨-, hshows, kept, -, -, hafter⟩ := record_ok hrecord
  have hids : after.ids.Nodup ∧ ∀ id, id ∈ after.ids ↔ id ∈ records.ids ∨ id = arg.id := by
    obtain rfl | ⟨-, rfl⟩ | ⟨hnew, rfl⟩ := hafter
    · exact ⟨Matches.nodup_ids_put h.apart _, fun id => Matches.mem_ids_put⟩
    · have hgone : arg.id ∉ (records.drop arg.id).ids := by simp [Matches.ids_drop]
      have hkept : (records.drop arg.id).ids.Nodup := by
        rw [Matches.ids_drop]
        exact h.apart.filter _
      refine ⟨Matches.nodup_ids_append hkept hgone, fun id => ?_⟩
      rw [Matches.ids_append, List.mem_append, Matches.ids_drop]
      by_cases hsame : id = arg.id
      · simp [hsame, Matches.ids]
      · simp [hsame, Matches.ids]
    · -- everything that is recorded was typed, so the argument has no record yet
      have hmissing : arg.id ∉ records.ids := by
        intro hmem
        obtain ⟨record, hmem, hid⟩ := Matches.mem_ids.1 hmem
        rw [(Matches.isTyped_iff h.apart).2 ⟨record, hmem, hid, h.typed record hmem⟩] at hnew
        cases hnew
      refine ⟨Matches.nodup_ids_append h.apart hmissing, fun id => ?_⟩
      rw [Matches.ids_append, List.mem_append]
      exact or_congr_right List.mem_singleton
  refine ⟨⟨hids.1, ?_, ?_⟩, hids.2⟩
  · intro record hmem
    obtain rfl | ⟨-, rfl⟩ | ⟨-, rfl⟩ := hafter
    · rcases mem_put hmem with hold | rfl
      · exact h.typed record hold
      · rfl
    · rcases List.mem_append.1 hmem with hold | hlast
      · exact h.typed record (List.mem_of_mem_filter hold)
      · rw [List.mem_singleton.1 hlast]
    · rcases List.mem_append.1 hmem with hold | hlast
      · exact h.typed record hold
      · rw [List.mem_singleton.1 hlast]
  · intro id hid
    rcases (hids.2 id).1 hid with hold | rfl
    · exact h.declared id hold
    · exact ⟨arg, harg, rfl, hshows⟩

/-- Settling moves what is pending to the records. -/
theorem counted_of_settle (h : progress.Counted level)
    (hsettle : settle level progress = .ok next) : next.Counted level ∧ next.pending = none := by
  obtain ⟨hnone, rfl⟩ | ⟨pending, records, hpending, hrecord, rfl⟩ := settle_ok hsettle
  · exact ⟨h, hnone⟩
  · obtain ⟨hrecords, hids⟩ :=
      onlyTyped_of_record h.records (h.pending pending hpending) hrecord
    refine ⟨⟨hrecords, fun _ hnone => (by cases hnone), fun id => ?_, h.positional⟩, rfl⟩
    show id ∈ progress.uses.map Use.id ↔ _
    rw [h.used, hids, hpending]
    simp only [Option.some.injEq, exists_eq_left', reduceCtorEq, false_and, exists_false, or_false,
      eq_comm]

/-- Where nothing is pending, exactly the recorded arguments were used. -/
theorem mem_uses_of_settled (h : settled.Counted level) (hpending : settled.pending = none)
    (id : String) : id ∈ settled.uses.map Use.id ↔ id ∈ settled.records.ids := by
  rw [h.used, hpending]
  simp

theorem mem_uses_append {uses : List Use} {use : Use} {id : String} :
    id ∈ (uses ++ [use]).map Use.id ↔ id ∈ uses.map Use.id ∨ id = use.id := by
  rw [List.map_append, List.mem_append, List.map_singleton, List.mem_singleton]

/-! ## Arguments -/

theorem tallied_start (level : Level) : Progress.Tallied level {} where
  records := ⟨List.nodup_nil, fun _ h => (by cases h), fun _ h => (by cases h)⟩
  pending _ h := by cases h
  used id := by simp [Matches.ids]
  positional _ _ h := by cases h
  collecting _ h := by cases h

/-- No change of how far reading has come uses an argument without recording it in the end. -/
theorem tallied_of_move {word : Option String} (h : progress.Tallied level)
    (hmove : Move level word progress next) : next.Tallied level := by
  -- an occurrence settles what was pending before it is counted itself
  cases hmove with
  | @occur _ _ arg values harg _ hoccur =>
    obtain ⟨settled, records, hsettled, hrecord, rfl⟩ := occur_ok hoccur
    obtain ⟨hcounted, hnone⟩ := counted_of_settle h.toCounted hsettled
    obtain ⟨hrecords, hids⟩ := onlyTyped_of_record hcounted.records harg hrecord
    refine ⟨⟨hrecords, hcounted.pending, fun id => ?_, fun id value hmem => ?_⟩,
      fun _ hnothing => by cases hnothing⟩
    · show id ∈ (settled.uses ++ [Use.option arg.id]).map Use.id ↔ _
      rw [mem_uses_append, mem_uses_of_settled hcounted hnone, hids, hnone]
      simp [Use.id]
    · rcases List.mem_append.1 hmem with hold | hlast
      · exact hcounted.positional id value hold
      · cases List.mem_singleton.1 hlast
  | @start _ _ arg harg _ _ hstart =>
    obtain ⟨settled, hsettled, rfl⟩ := startCollecting_ok hstart
    obtain ⟨hcounted, hnone⟩ := counted_of_settle h.toCounted hsettled
    refine ⟨⟨hcounted.records, fun _ hpending => ?_, fun id => ?_, fun id value hmem => ?_⟩,
      fun other hother => ?_⟩
    · cases hpending
      exact harg
    · show id ∈ (settled.uses ++ [Use.option arg.id]).map Use.id ↔ _
      rw [mem_uses_append, mem_uses_of_settled hcounted hnone]
      simp [Use.id, eq_comm]
    · rcases List.mem_append.1 hmem with hold | hlast
      · exact hcounted.positional id value hold
      · cases List.mem_singleton.1 hlast
    · cases hother
      exact ⟨[], rfl⟩
  | terminator => exact ⟨⟨h.records, h.pending, h.used, h.positional⟩, h.collecting⟩
  | @value _ arg values collecting harg hcollecting =>
    -- the option that collects is the one that is pending
    obtain ⟨before, hpending⟩ := h.collecting arg harg
    refine ⟨⟨h.records, fun _ hsome => ?_, fun id => ?_, h.positional⟩, fun other hother => ?_⟩
    · have hmem := h.pending _ hpending
      cases hsome
      exact hmem
    · show id ∈ progress.uses.map Use.id ↔ _
      rw [h.used, hpending]
      simp
    · rcases hcollecting with rfl | rfl
      · cases hother
        exact ⟨values, rfl⟩
      · cases hother
  | @give _ _ arg place word hplace _ hgive =>
    have harg : arg ∈ level.positionals := List.mem_of_getElem? hplace
    obtain ⟨settled, hsettled, rfl⟩ := give_ok hgive
    have hcounted : settled.Counted level
        ∧ ∀ id, (id ∈ settled.uses.map Use.id ∨ id = arg.id)
          ↔ id ∈ settled.records.ids ∨ arg.id = id := by
      rcases hsettled with ⟨rfl, pending, hpending, hid⟩ | hsettled
      · -- the positional goes on with what is pending for it
        refine ⟨h.toCounted, fun id => ?_⟩
        rw [h.used, hpending]
        simp only [Option.some.injEq, exists_eq_left', hid, or_assoc, eq_comm, or_self]
      · obtain ⟨hcounted, hnone⟩ := counted_of_settle h.toCounted hsettled
        refine ⟨hcounted, fun id => ?_⟩
        rw [mem_uses_of_settled hcounted hnone, eq_comm]
    refine ⟨⟨hcounted.1.records, fun _ hpending => ?_, fun id => ?_, fun id value hmem => ?_⟩,
      fun other hother => ?_⟩
    · cases hpending
      exact (List.mem_filter.1 harg).1
    · show id ∈ (settled.uses ++ [Use.positional arg.id word]).map Use.id ↔ _
      rw [mem_uses_append]
      simpa [Use.id] using hcounted.2 id
    · rcases List.mem_append.1 hmem with hold | hlast
      · exact hcounted.1.positional id value hold
      · cases List.mem_singleton.1 hlast
        exact ⟨arg, harg, rfl⟩
    · dsimp only at hother
      split at hother
      · cases hother
      · cases hother

theorem tallied_of_moves (h : progress.Tallied level) (hmoves : Moves level progress next) :
    next.Tallied level := by
  induction hmoves with
  | refl => exact h
  | tail _ hmove ih =>
    obtain ⟨word, hmove⟩ := hmove
    exact tallied_of_move ih hmove

/-! ## Levels that end -/

/-- Defaults are recorded for arguments that have no record, and leave what was typed alone. -/
theorem addDefaults_typed {args : List Arg} (hapart : records.ids.Nodup)
    (h : args.foldlM (addDefault level) records = .ok after) :
    after.ids.Nodup ∧ ∀ record, record.source = .commandLine →
      (record ∈ after ↔ record ∈ records) := by
  induction args generalizing records with
  | nil =>
    rw [List.foldlM_nil, pure_eq_ok] at h
    subst h
    exact ⟨hapart, fun _ _ => Iff.rfl⟩
  | cons arg rest ih =>
    rw [List.foldlM_cons, bind_eq_ok] at h
    obtain ⟨middle, hmiddle, h⟩ := h
    obtain ⟨rfl, -⟩ | ⟨values, -, -, hnone, rfl⟩ := addDefault_ok hmiddle
    · exact ih hapart h
    · have hnew := Matches.get?_eq_none_iff.1 hnone
      obtain ⟨hafter, htyped⟩ := ih (Matches.nodup_ids_append hapart hnew) h
      refine ⟨hafter, fun record hsource => ?_⟩
      rw [htyped record hsource, List.mem_append, List.mem_singleton, or_iff_left]
      rintro rfl
      cases hsource

theorem tallied_of_finish {descended : Bool} {top : LevelRecord} (h : progress.Tallied level)
    (hfinish : finish level progress descended = .ok top) : top.Tallied level := by
  obtain ⟨settled, records, hsettled, hdefaults, -, -, rfl⟩ := finish_ok hfinish
  obtain ⟨hcounted, hnone⟩ := counted_of_settle h.toCounted hsettled
  obtain ⟨hapart, htyped⟩ := addDefaults_typed hcounted.records.apart hdefaults
  -- what is typed in the end is what was recorded before the defaults
  have hids : ∀ id, id ∈ settled.records.ids ↔ records.isTyped id = true := by
    intro id
    rw [Matches.isTyped_iff hapart, Matches.mem_ids]
    constructor
    · rintro ⟨record, hmem, hid⟩
      have hsource := hcounted.records.typed record hmem
      exact ⟨record, (htyped record hsource).2 hmem, hid, hsource⟩
    · rintro ⟨record, hmem, hid, hsource⟩
      exact ⟨record, (htyped record hsource).1 hmem, hid⟩
  refine ⟨hapart, fun id => ?_, fun id hid => ?_, hcounted.positional, rfl⟩
  · exact (mem_uses_of_settled hcounted hnone id).trans (hids id)
  · exact hcounted.records.declared id ((hids id).2 hid)

/-- Whatever is read, no level has two records for one argument. -/
theorem nodup_ids_of_read {arguments : List String} {read : Parsed} (h : progress.Tallied level)
    (hread : Reader.read level progress arguments = .ok read) :
    ∀ below ∈ read.levels, below.records.ids.Nodup := by
  induction arguments generalizing level progress read with
  | nil =>
    obtain ⟨top, hfinish, rfl⟩ := read_nil_ok hread
    exact List.forall_mem_singleton.2 (tallied_of_finish h hfinish).apart
  | cons argument rest ih =>
    obtain ⟨next, -, hturned, hrest⟩ | ⟨sub, below, top, -, -, -, hbelow, hfinish, rfl⟩ |
      ⟨name, top, -, -, hfinish, rfl⟩ := read_cons_ok hread
    · exact ih (tallied_of_moves h hturned.moves) hrest
    · have htop := (tallied_of_finish h hfinish).apart
      exact List.forall_mem_cons.2 ⟨htop, ih (tallied_start _) hbelow⟩
    · -- a command from elsewhere has no records
      have htop := (tallied_of_finish h hfinish).apart
      exact List.forall_mem_cons.2 ⟨htop, List.forall_mem_singleton.2 List.nodup_nil⟩

end Reader

end CommandTelemetry
