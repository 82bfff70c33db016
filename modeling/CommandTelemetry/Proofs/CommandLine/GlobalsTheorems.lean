import CommandTelemetry.CommandLine.Globals
import CommandTelemetry.Proofs.CommandLine.MatchesTheorems
import Mathlib.Data.List.Induction

/-!
# What sharing global options does

* `Globals.share_chain` says that sharing changes no command that was chosen, and
  `Globals.share_eq_self` that without global options it changes nothing;
* `Globals.typed_carried_iff` says what is carried down of a global option: the record of the
  deepest level that it was typed at;
* `Globals.typed_shared_iff` says what the last level has of any argument in the end.
-/

namespace CommandTelemetry

namespace Globals

theorem shareFrom_commands (ids : List String) (carried : Matches) (levels : List LevelRecord) :
    (shareFrom ids carried levels).map (·.command) = levels.map (·.command) := by
  induction levels generalizing carried with
  | nil => rfl
  | cons level below ih => rw [shareFrom, List.map_cons, List.map_cons, ih]

/-- Sharing changes no command that was chosen. -/
theorem share_chain (parsed : Parsed) : (share parsed).chain = parsed.chain := by
  have hcommands := shareFrom_commands (parsed.levels.flatMap (·.globalIds)) [] parsed.levels
  unfold share
  dsimp only
  split
  · rfl
  · next top below hshared =>
    rw [hshared, Parsed.levels, List.map_cons, List.map_cons, List.cons_eq_cons] at hcommands
    exact hcommands.2

theorem shareFrom_nil (levels : List LevelRecord) : shareFrom [] [] levels = levels := by
  induction levels with
  | nil => rfl
  | cons level below ih => rw [shareFrom, List.foldl_nil, List.foldl_nil, ih]

/-- Without global options there is nothing to share. -/
theorem share_eq_self {parsed : Parsed} (h : ∀ level ∈ parsed.levels, level.globalIds = []) :
    share parsed = parsed := by
  have hids : parsed.levels.flatMap (·.globalIds) = [] := List.flatMap_eq_nil_iff.2 h
  unfold share
  dsimp only
  rw [hids, shareFrom_nil]
  rfl

theorem share_levels (parsed : Parsed) :
    (share parsed).levels = shareFrom (parsed.levels.flatMap (·.globalIds)) [] parsed.levels := by
  unfold share
  dsimp only
  split
  · next hnil => cases hnil
  · next hshared => exact hshared.symm

/-- Sharing leaves each argument of a level with one record. -/
theorem nodup_ids_share {parsed : Parsed}
    (h : ∀ level ∈ parsed.levels, level.records.ids.Nodup) :
    ∀ level ∈ (share parsed).levels, level.records.ids.Nodup := by
  rw [share_levels]
  generalize parsed.levels.flatMap (·.globalIds) = ids
  generalize ([] : Matches) = carried
  generalize parsed.levels = levels at h
  induction levels generalizing carried with
  | nil => exact fun level hlevel => nomatch hlevel
  | cons top below ih =>
    obtain ⟨htop, hbelow⟩ := List.forall_mem_cons.1 h
    rw [shareFrom]
    exact List.forall_mem_cons.2 ⟨Matches.nodup_ids_foldl_put htop _, ih _ hbelow⟩

/-! ## What is carried down -/

variable {ids : List String} {id : String} {records carried : Matches} {record : Match}
  {levels : List LevelRecord}

/-- What is carried down of one argument below a level with these records. -/
def prevailingAt (records : Matches) (above : Option Match) (id : String) : Option Match :=
  match records.get? id with
  | none => above
  | some own => some (prevailing above own)

/-- What is carried down in all, below these levels. -/
def carriedBelow (ids : List String) (levels : List LevelRecord) : Matches :=
  levels.foldl (fun carried level => ids.foldl (carry level.records) carried) []

theorem prevailing_id {above : Option Match} {own : Match} (habove : ∀ record, above = some record →
    record.id = id) (hown : own.id = id) : (prevailing above own).id = id := by
  unfold prevailing
  split
  · next record =>
    split
    · exact habove record rfl
    · exact hown
  · exact hown

/-- What was typed prevails. -/
theorem prevailing_of_typed {own : Match} (above : Option Match) (h : own.source = .commandLine) :
    prevailing above own = own := by
  cases above with
  | none => rfl
  | some old => cases hold : old.source <;> simp [prevailing, Source.isStrongerThan, h, hold]

/-- What prevails is not changed by prevailing once more. -/
theorem prevailingAt_idem (records : Matches) (above : Option Match) (id : String) :
    prevailingAt records (prevailingAt records above id) id = prevailingAt records above id := by
  unfold prevailingAt
  cases records.get? id with
  | none => rfl
  | some own =>
    refine congrArg some ?_
    have hself : prevailing (some own) own = own := ite_self _
    cases above with
    | none => exact hself
    | some old =>
      by_cases hstronger : old.source.isStrongerThan own.source = true
      · have hold : prevailing (some old) own = old := if_pos hstronger
        simp only [hold]
      · have hown : prevailing (some old) own = own := if_neg hstronger
        simp only [hown, hself]

theorem get?_carry (records carried : Matches) (first id : String) :
    (carry records carried first).get? id
      = if first = id then prevailingAt records (carried.get? id) id else carried.get? id := by
  unfold carry
  split
  · next hnone =>
    split
    · next hsame =>
      subst hsame
      rw [prevailingAt, hnone]
    · rfl
  · next own hown =>
    have hid : (prevailing (carried.get? first) own).id = first :=
      prevailing_id (fun _ => Matches.id_of_get?) (Matches.id_of_get? hown)
    rw [Matches.get?_put, hid]
    split
    · next hsame =>
      subst hsame
      rw [prevailingAt, hown]
    · rfl

theorem get?_foldl_carry (ids : List String) (records carried : Matches) (id : String) :
    (ids.foldl (carry records) carried).get? id
      = if id ∈ ids then prevailingAt records (carried.get? id) id else carried.get? id := by
  induction ids generalizing carried with
  | nil => rw [List.foldl_nil, if_neg List.not_mem_nil]
  | cons first rest ih =>
    rw [List.foldl_cons, ih, get?_carry]
    by_cases hfirst : first = id
    · -- the same id may come again, which changes nothing
      subst hfirst
      rw [if_pos rfl, if_pos List.mem_cons_self, prevailingAt_idem, ite_self]
    · rw [if_neg hfirst]
      refine if_congr ?_ rfl rfl
      rw [List.mem_cons, or_iff_right (Ne.symm hfirst)]

theorem nodup_foldl_carry (ids : List String) (records : Matches) (h : carried.ids.Nodup) :
    (ids.foldl (carry records) carried).ids.Nodup := by
  induction ids generalizing carried with
  | nil => exact h
  | cons first rest ih =>
    refine ih ?_
    unfold carry
    split
    · exact h
    · exact Matches.nodup_ids_put h _

theorem carriedBelow_concat (ids : List String) (levels : List LevelRecord) (last : LevelRecord) :
    carriedBelow ids (levels ++ [last])
      = ids.foldl (carry last.records) (carriedBelow ids levels) := by
  rw [carriedBelow, List.foldl_append]
  rfl

theorem nodup_carriedBelow (ids : List String) (levels : List LevelRecord) :
    (carriedBelow ids levels).ids.Nodup := by
  induction levels using List.reverseRecOn with
  | nil => exact List.nodup_nil
  | append_singleton levels last ih =>
    rw [carriedBelow_concat]
    exact nodup_foldl_carry ids last.records ih

/-- Nothing is carried down of an argument that is not global. -/
theorem get?_carriedBelow_of_not_mem (hid : id ∉ ids) (levels : List LevelRecord) :
    (carriedBelow ids levels).get? id = none := by
  induction levels using List.reverseRecOn with
  | nil => rfl
  | append_singleton levels last ih => rw [carriedBelow_concat, get?_foldl_carry, if_neg hid, ih]

end Globals

namespace Parsed

/-- The deepest of some levels at which an argument was typed. -/
def deepestTyped? (levels : List LevelRecord) (id : String) : Option LevelRecord :=
  levels.reverse.find? (·.records.isTyped id)

theorem deepestTyped?_concat (levels : List LevelRecord) (last : LevelRecord) (id : String) :
    deepestTyped? (levels ++ [last]) id
      = if last.records.isTyped id = true then some last else deepestTyped? levels id := by
  rw [deepestTyped?, List.reverse_append, List.reverse_singleton, List.singleton_append,
    List.find?_cons]
  cases last.records.isTyped id with
  | true => rfl
  | false => rfl

end Parsed

namespace Globals

variable {ids : List String} {id : String} {records carried : Matches} {record : Match}
  {levels : List LevelRecord}

theorem not_typed_of_default {own : Match} (h : own.source = .default) :
    ¬ (some own = some record ∧ record.source = .commandLine) := by
  rintro ⟨hsame, htyped⟩
  rw [← Option.some.inj hsame, h] at htyped
  cases htyped

/-- What is carried below a level was typed there, or above where the level has only a default. -/
theorem typed_prevailingAt_iff (records : Matches) (above : Option Match) :
    (prevailingAt records above id = some record ∧ record.source = .commandLine)
      ↔ if records.isTyped id = true then records.get? id = some record
        else above = some record ∧ record.source = .commandLine := by
  unfold prevailingAt Matches.isTyped
  cases records.get? id with
  | none => simp
  | some own =>
    cases hsource : own.source with
    | commandLine =>
      simp only [prevailing_of_typed above hsource, Option.any_some, hsource, decide_true, if_true]
      refine and_iff_left_of_imp fun hsame => ?_
      rw [← Option.some.inj hsame, hsource]
    | default =>
      have hdefault : ¬ (some own).any (·.source = .commandLine) = true := by simp [hsource]
      rw [if_neg hdefault]
      -- a default gives way to what was typed above, and to nothing else
      cases above with
      | none =>
        refine iff_of_false (not_typed_of_default hsource) ?_
        rintro ⟨hnone, -⟩
        cases hnone
      | some old =>
        cases hold : old.source with
        | commandLine =>
          have hprevails : prevailing (some old) own = old := by
            simp [prevailing, Source.isStrongerThan, hsource, hold]
          simp only [hprevails]
        | default =>
          have hprevails : prevailing (some old) own = own := by
            simp [prevailing, Source.isStrongerThan, hsource, hold]
          simp only [hprevails]
          exact iff_of_false (not_typed_of_default hsource) (not_typed_of_default hold)

/-- What is carried down of a global option that was typed is the record of the deepest level. -/
theorem typed_carried_iff (hid : id ∈ ids) (levels : List LevelRecord) :
    ((carriedBelow ids levels).get? id = some record ∧ record.source = .commandLine)
      ↔ ∃ level, Parsed.deepestTyped? levels id = some level
          ∧ level.records.get? id = some record := by
  -- the last level decides first, so levels are taken off at the end
  induction levels using List.reverseRecOn with
  | nil => simp [carriedBelow, Matches.get?, Parsed.deepestTyped?]
  | append_singleton levels last ih =>
    rw [carriedBelow_concat, get?_foldl_carry, if_pos hid, typed_prevailingAt_iff,
      Parsed.deepestTyped?_concat]
    split
    · simp
    · exact ih

/-! ## What the last level has -/

theorem shareFrom_concat (ids : List String) (carried : Matches) (levels : List LevelRecord)
    (last : LevelRecord) : shareFrom ids carried (levels ++ [last])
      = shareFrom ids carried levels ++ [{ last with
          records := (ids.foldl (carry last.records) (levels.foldl
            (fun carried level => ids.foldl (carry level.records) carried) carried)).foldl
              Matches.put last.records }] := by
  induction levels generalizing carried with
  | nil => rfl
  | cons level below ih =>
    rw [List.cons_append, shareFrom, ih, shareFrom, List.cons_append, List.foldl_cons]

/-- The records of a level with everything put into them that is carried down to it. -/
def sharedRecords (levels : List LevelRecord) (last : LevelRecord) : Matches :=
  (carriedBelow (levels.flatMap (·.globalIds)) levels).foldl Matches.put last.records

theorem share_levels_concat {parsed : Parsed} {above : List LevelRecord} {last : LevelRecord}
    (h : parsed.levels = above ++ [last]) : ∃ shared, (share parsed).levels
      = shared ++ [{ last with records := sharedRecords parsed.levels last }] := by
  refine ⟨shareFrom (parsed.levels.flatMap (·.globalIds)) [] above, ?_⟩
  rw [share_levels, h, shareFrom_concat, sharedRecords, carriedBelow_concat]
  rfl

theorem nodup_sharedRecords {last : LevelRecord} (h : last.records.ids.Nodup)
    (levels : List LevelRecord) : (sharedRecords levels last).ids.Nodup :=
  Matches.nodup_ids_foldl_put h _

/-- What is global at no level stays as it is. -/
theorem get?_sharedRecords_of_not_mem (h : ∀ level ∈ levels, id ∉ level.globalIds)
    (last : LevelRecord) : (sharedRecords levels last).get? id = last.records.get? id := by
  have hid : id ∉ levels.flatMap (·.globalIds) := by
    intro hmem
    obtain ⟨level, hlevel, hglobal⟩ := List.mem_flatMap.1 hmem
    exact h level hlevel hglobal
  rw [sharedRecords, Matches.get?_foldl_put (nodup_carriedBelow _ levels),
    get?_carriedBelow_of_not_mem hid, Option.none_or]

theorem or_get?_prevailingAt (records : Matches) (above : Option Match) (id : String) :
    (prevailingAt records above id).or (records.get? id) = prevailingAt records above id := by
  unfold prevailingAt
  cases records.get? id with
  | none => exact Option.or_none
  | some own => rfl

/-- The last level has in the end what was typed at the deepest level, where only global options are
typed above the last one. -/
theorem typed_shared_iff {last : LevelRecord} (hglobal : ∀ level ∈ levels,
      level.records.isTyped id = true → id ∈ level.globalIds) :
    ((sharedRecords (levels ++ [last]) last).get? id = some record
        ∧ record.source = .commandLine)
      ↔ ∃ level, Parsed.deepestTyped? (levels ++ [last]) id = some level
          ∧ level.records.get? id = some record := by
  rw [sharedRecords]
  generalize hids : (levels ++ [last]).flatMap (·.globalIds) = ids
  rw [Matches.get?_foldl_put (nodup_carriedBelow ids _)]
  by_cases hid : id ∈ ids
  · have hcarried : (carriedBelow ids (levels ++ [last])).get? id
        = prevailingAt last.records ((carriedBelow ids levels).get? id) id := by
      rw [carriedBelow_concat, get?_foldl_carry, if_pos hid]
    have hkept : ((carriedBelow ids (levels ++ [last])).get? id).or (last.records.get? id)
        = (carriedBelow ids (levels ++ [last])).get? id := by
      rw [hcarried, or_get?_prevailingAt]
    rw [hkept]
    exact typed_carried_iff hid (levels ++ [last])
  · -- what is not global was typed at the last level or not at all
    have hnone : Parsed.deepestTyped? levels id = none := by
      refine List.find?_eq_none.2 fun level hlevel htyped => hid ?_
      have hmem := List.mem_reverse.1 hlevel
      rw [← hids]
      exact List.mem_flatMap.2 ⟨level, List.mem_append_left _ hmem, hglobal level hmem htyped⟩
    have hown : last.records.get? id = prevailingAt last.records none id := by
      unfold prevailingAt
      cases last.records.get? id with
      | none => rfl
      | some own => rfl
    rw [get?_carriedBelow_of_not_mem hid, Option.none_or, hown, typed_prevailingAt_iff,
      Parsed.deepestTyped?_concat, hnone]
    split
    · simp
    · simp

end Globals

end CommandTelemetry
