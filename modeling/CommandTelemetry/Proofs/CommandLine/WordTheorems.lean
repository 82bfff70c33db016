import CommandTelemetry.Proofs.CommandLine.DescentTheorems
import CommandTelemetry.Proofs.CommandLine.UseTheorems

/-!
# The words of positionals

Words are taken for positionals one after the other, between options and behind two dashes. A level
keeps them in the order in which they were typed. Its records have them by positional, and the two
orders are the same.

* `Level.KeepsWords` is what this takes: ids that are apart, and no positional that is counted;
* `Progress.Collected` says that the words of a positional are recorded or about to be, and
  `Progress.InOrder` that they stand in the order of the positionals; every change of how far
  reading has come keeps both (`Reader.collected_of_move`, `Reader.inOrder_of_move`);
* `Reader.words_of_finish` says it of a level that ended, and `Reader.words_sublist` that the words
  are arguments in the order of the command line.
-/

namespace CommandTelemetry

/-- The word that a positional took, behind the id of the positional. -/
def Use.word? : Use → Option (String × String)
  | option _ => none
  | positional id word => some (id, word)

/-- The words taken for positionals in the order in which they were typed. -/
def LevelRecord.words (level : LevelRecord) : List (String × String) :=
  level.uses.filterMap Use.word?

/-- The words taken for positionals so far. -/
def Progress.words (progress : Progress) : List (String × String) :=
  progress.uses.filterMap Use.word?

/-- The values typed for a positional so far, those that are not recorded yet behind the others. -/
def Progress.valuesOf (progress : Progress) (arg : Arg) : List String :=
  CommandNode.typedValues progress.records arg.id
    ++ (((progress.pending.filter (·.arg.id = arg.id)).map (·.values)).getD []).flatMap
      (Reader.splitValue arg)

/-- The values that the words of a positional come to. -/
def wordValues (words : List (String × String)) (arg : Arg) : List String :=
  (words.filter (·.1 = arg.id)).flatMap fun word => Reader.splitValue arg word.2

/-- One more word adds values to its own positional alone. -/
theorem wordValues_concat (words : List (String × String)) (id taken : String) (arg : Arg) :
    wordValues (words ++ [(id, taken)]) arg
      = wordValues words arg ++ if id = arg.id then Reader.splitValue arg taken else [] := by
  by_cases hsame : id = arg.id
  · simp [wordValues, hsame]
  · simp [wordValues, hsame]

/-- A level whose positionals keep their words: nothing that has values has the id of a positional,
and no positional keeps its last word alone. -/
structure Level.KeepsWords (level : Level) : Prop where
  apart : (level.positionals.map (·.id)).Nodup
  alone : ∀ arg ∈ level.positionals, ∀ other ∈ level.args, other.isPositional = false →
    other.effectiveAction.shows = false ∨ other.takesValues = true → other.id ≠ arg.id
  uncounted : ∀ arg ∈ level.positionals, arg.effectiveAction ≠ .count

/-- An occurrence that waits is one of an option that takes values, or one of a positional that has
a word. -/
def Pending.Sound (level : Level) (pending : Pending) : Prop :=
  (pending.arg ∈ level.args ∧ pending.arg.isPositional = false ∧ pending.arg.takesValues = true)
    ∨ pending.arg ∈ level.positionals ∧ pending.values ≠ []

section

variable {level : Level} {arg other : Arg} {pending : Pending}

theorem Level.KeepsWords.eq_of_id (h : level.KeepsWords) (harg : arg ∈ level.positionals)
    (hother : other ∈ level.positionals) (hsame : other.id = arg.id) : other = arg :=
  List.inj_on_of_nodup_map h.apart hother harg hsame

/-- The positionals before and behind a place have ids other than the one there. -/
theorem Level.KeepsWords.around (h : level.KeepsWords) {place : Nat}
    (hplace : level.positionals[place]? = some arg) :
    level.positionals = level.positionals.take place ++ arg :: level.positionals.drop (place + 1)
      ∧ (∀ other ∈ level.positionals.take place, other.id ≠ arg.id)
      ∧ ∀ other ∈ level.positionals.drop (place + 1), other.id ≠ arg.id := by
  obtain ⟨hlt, harg⟩ := List.getElem?_eq_some_iff.1 hplace
  have hsplit : level.positionals
      = level.positionals.take place ++ arg :: level.positionals.drop (place + 1) := by
    rw [← harg, ← List.drop_eq_getElem_cons hlt, List.take_append_drop]
  have hapart := h.apart
  rw [hsplit, List.map_append, List.map_cons, List.nodup_append, List.nodup_cons] at hapart
  obtain ⟨-, ⟨hbehind, -⟩, hfront⟩ := hapart
  refine ⟨hsplit, fun other hother => ?_, fun other hother hsame => ?_⟩
  · exact hfront _ (List.mem_map_of_mem hother) _ List.mem_cons_self
  · exact hbehind (hsame ▸ List.mem_map_of_mem hother)

/-- What waits for a positional is an occurrence of this one. -/
theorem Pending.Sound.eq_of_id (h : pending.Sound level) (hlevel : level.KeepsWords)
    (harg : arg ∈ level.positionals) (hsame : pending.arg.id = arg.id) :
    pending.arg = arg ∧ pending.values ≠ [] := by
  rcases h with ⟨hmem, hoption, htakes⟩ | ⟨hmem, hvalues⟩
  · exact absurd hsame (hlevel.alone arg harg pending.arg hmem hoption (Or.inr htakes))
  · exact ⟨hlevel.eq_of_id harg hmem hsame, hvalues⟩

end

/-- What a level has of the words for its positionals. -/
structure Progress.Collected (level : Level) (progress : Progress) : Prop where
  pending : ∀ pending, progress.pending = some pending → pending.Sound level
  collecting : ∀ arg, progress.collecting = .option arg → arg.isPositional = false
  values : ∀ arg ∈ level.positionals, progress.valuesOf arg = wordValues progress.words arg

/-- The words stand in the order of the positionals, and none is for a later one than that whose
turn it is. -/
structure Progress.InOrder (level : Level) (progress : Progress) : Prop where
  grouped : level.positionals.flatMap (fun arg => progress.words.filter (·.1 = arg.id))
    = progress.words
  reached : ∀ arg ∈ level.positionals.drop (progress.position + 1),
    ∀ word ∈ progress.words, word.1 ≠ arg.id

namespace Reader

variable {level : Level} {progress next settled : Progress} {records after : Matches}
  {arg other : Arg} {word : Option String}

/-! ## Records -/

theorem typedValues_congr {id : String} (h : after.get? id = records.get? id) :
    CommandNode.typedValues after id = CommandNode.typedValues records id := by
  rw [CommandNode.typedValues, CommandNode.typedValues, h]

/-- An occurrence leaves the records of others alone. -/
theorem get?_of_record_ne {values : List String} {id : String}
    (h : record level records arg values = .ok after) (hne : arg.id ≠ id) :
    after.get? id = records.get? id := by
  have hnone : ∀ kept, Matches.get? [⟨arg.id, .commandLine, kept⟩] id = none := by
    intro kept
    rw [Matches.get?_cons, if_neg hne]
    rfl
  obtain ⟨-, -, kept, -, -, rfl | ⟨-, rfl⟩ | ⟨-, rfl⟩⟩ := record_ok h
  · exact Matches.get?_put_of_ne records hne
  · have hdrop : (records.drop arg.id).get? id = records.get? id := by
      rw [Matches.drop, Matches.get?, List.find?_filter]
      refine List.find?_congr fun old _ => ?_
      by_cases hold : old.id = id
      · simp [hold, Ne.symm hne]
      · simp [hold]
    rw [Matches.get?, List.find?_append, ← Matches.get?, ← Matches.get?, hnone, hdrop,
      Option.or_none]
  · rw [Matches.get?, List.find?_append, ← Matches.get?, ← Matches.get?, hnone, Option.or_none]

theorem typedValues_of_typed {values : List String} {id : String}
    (h : records.get? id = some ⟨id, .commandLine, values⟩) :
    CommandNode.typedValues records id = values := by
  rw [CommandNode.typedValues, h]
  rfl

/-- The values of an occurrence stand behind those from before, if nothing is counted. -/
theorem typedValues_of_record {values : List String} (honly : records.OnlyTyped level)
    (hcount : arg.effectiveAction ≠ .count) (hvalues : values ≠ [])
    (h : record level records arg values = .ok after) :
    CommandNode.typedValues after arg.id
      = CommandNode.typedValues records arg.id ++ values.flatMap (splitValue arg) := by
  obtain ⟨-, -, kept, -, hkept, rfl | ⟨haction, -⟩ | ⟨hnew, rfl⟩⟩ := record_ok h
  · rw [← hkept hvalues]
    exact typedValues_of_typed (Matches.get?_put_self records _)
  · exact absurd haction hcount
  · -- all that is recorded was typed, so there is no record yet
    have hnone : records.get? arg.id = none := by
      cases hget : records.get? arg.id with
      | none => rfl
      | some old =>
        have hsource := honly.typed old (List.mem_of_find?_eq_some hget)
        rw [Matches.isTyped, hget, Option.any_some, hsource] at hnew
        cases hnew
    have hold : CommandNode.typedValues records arg.id = [] := by
      rw [CommandNode.typedValues, hnone]
      rfl
    have hfound : Matches.get? (records ++ [⟨arg.id, .commandLine, kept⟩]) arg.id
        = some ⟨arg.id, .commandLine, kept⟩ := by
      rw [Matches.get?, List.find?_append, ← Matches.get?, hnone, Option.none_or,
        List.find?_singleton]
      simp
    rw [hold, List.nil_append, ← hkept hvalues]
    exact typedValues_of_typed hfound

/-! ## What is pending -/

theorem valuesOf_of_none (h : progress.pending = none) (arg : Arg) :
    progress.valuesOf arg = CommandNode.typedValues progress.records arg.id := by
  rw [Progress.valuesOf, h]
  exact List.append_nil _

theorem valuesOf_of_ne {pending : Pending} (h : progress.pending = some pending)
    (hne : pending.arg.id ≠ arg.id) :
    progress.valuesOf arg = CommandNode.typedValues progress.records arg.id := by
  rw [Progress.valuesOf, h, Option.filter_some, if_neg (by simpa using hne)]
  exact List.append_nil _

theorem valuesOf_of_eq {pending : Pending} (h : progress.pending = some pending)
    (hsame : pending.arg.id = arg.id) :
    progress.valuesOf arg = CommandNode.typedValues progress.records arg.id
      ++ pending.values.flatMap (splitValue arg) := by
  rw [Progress.valuesOf, h, Option.filter_some, if_pos (by simpa using hsame)]
  rfl

/-- Settling takes nothing from the values of a positional, and adds nothing. -/
theorem valuesOf_settle (hlevel : level.KeepsWords) (htallied : progress.Tallied level)
    (h : progress.Collected level) (hsettle : settle level progress = .ok settled)
    (harg : arg ∈ level.positionals) : settled.valuesOf arg = progress.valuesOf arg := by
  obtain ⟨-, rfl⟩ | ⟨pending, records, hpending, hrecord, rfl⟩ := settle_ok hsettle
  · rfl
  · rw [valuesOf_of_none rfl]
    by_cases hsame : pending.arg.id = arg.id
    · obtain ⟨rfl, hvalues⟩ := (h.pending pending hpending).eq_of_id hlevel harg hsame
      rw [valuesOf_of_eq hpending rfl]
      exact typedValues_of_record htallied.records (hlevel.uncounted _ harg) hvalues hrecord
    · rw [valuesOf_of_ne hpending hsame]
      exact typedValues_congr (get?_of_record_ne hrecord hsame)

/-! ## One change -/

/-- A change that takes no word leaves the words and the turn as they were. -/
theorem words_of_wordless (hmove : Move level none progress next) :
    next.words = progress.words ∧ next.position = progress.position := by
  have hoption : ∀ (uses : List Use) (id : String),
      (uses ++ [Use.option id]).filterMap Use.word? = uses.filterMap Use.word? := by
    intro uses id
    simp [Use.word?]
  cases hmove with
  | occur _ _ hoccur =>
    obtain ⟨settled, records, hsettle, -, rfl⟩ := occur_ok hoccur
    obtain ⟨settledRecords, rfl⟩ := settle_eq hsettle
    exact ⟨hoption _ _, rfl⟩
  | start _ _ _ hstart =>
    obtain ⟨settled, hsettle, rfl⟩ := startCollecting_ok hstart
    obtain ⟨settledRecords, rfl⟩ := settle_eq hsettle
    exact ⟨hoption _ _, rfl⟩
  | terminator => exact ⟨rfl, rfl⟩
  | value => exact ⟨rfl, rfl⟩

/-- A word that is given stands behind the others, and the turn is not one of an earlier
positional. -/
theorem words_of_give {place : Nat} {taken : String}
    (h : give level progress place arg taken = .ok next) :
    next.words = progress.words ++ [(arg.id, taken)] ∧ place ≤ next.position := by
  obtain ⟨settled, hsettle, rfl⟩ := give_ok h
  have huses : settled.uses = progress.uses := by
    rcases hsettle with ⟨rfl, -⟩ | hsettle
    · rfl
    · obtain ⟨records, rfl⟩ := settle_eq hsettle
      rfl
  constructor
  · show (settled.uses ++ [Use.positional arg.id taken]).filterMap Use.word? = _
    simp [huses, Use.word?, Progress.words]
  · show place ≤ if arg.isMultiple then place else place + 1
    split
    · exact Nat.le_refl _
    · exact Nat.le_succ _

theorem collected_start (level : Level) : Progress.Collected level {} where
  pending _ h := by cases h
  collecting _ h := by cases h
  values _ _ := rfl

/-- A word that is given adds its values to those of its own positional. -/
theorem valuesOf_give (hlevel : level.KeepsWords) (htallied : progress.Tallied level)
    (h : progress.Collected level) {place : Nat} {taken : String}
    (hother : other ∈ level.positionals)
    (hgive : give level progress place arg taken = .ok next) :
    next.valuesOf other
      = progress.valuesOf other ++ if arg.id = other.id then splitValue other taken else [] := by
  obtain ⟨settled, hsettle, rfl⟩ := give_ok hgive
  -- nothing is pending that the word does not go on with, and no value was lost on the way there
  have hpending : ∀ pending, settled.pending = some pending → pending.arg.id = arg.id := by
    intro pending hsome
    rcases hsettle with ⟨rfl, waiting, hwaiting, hid⟩ | hsettle
    · rw [hsome] at hwaiting
      cases hwaiting
      exact hid
    · obtain ⟨records, rfl⟩ := settle_eq hsettle
      cases hsome
  have hbefore : settled.valuesOf other = progress.valuesOf other := by
    rcases hsettle with ⟨rfl, -⟩ | hsettle
    · rfl
    · exact valuesOf_settle hlevel htallied h hsettle hother
  rw [← hbefore]
  cases hsome : settled.pending with
  | none =>
    rw [valuesOf_of_none hsome]
    by_cases hsame : arg.id = other.id
    · simp [Progress.valuesOf, Option.filter_some, hsame]
    · simp [Progress.valuesOf, Option.filter_some, hsame]
  | some pending =>
    have hid := hpending pending hsome
    by_cases hsame : arg.id = other.id
    · rw [valuesOf_of_eq hsome (hid.trans hsame)]
      simp [Progress.valuesOf, Option.filter_some, hsame]
    · rw [valuesOf_of_ne hsome (hid ▸ hsame)]
      simp [Progress.valuesOf, Option.filter_some, hsame]

/-- A word that is given is collected like those before it. -/
theorem collected_of_give (hlevel : level.KeepsWords) (htallied : progress.Tallied level)
    (h : progress.Collected level) {place : Nat} {taken : String} (harg : arg ∈ level.positionals)
    (hgive : give level progress place arg taken = .ok next) : next.Collected level := by
  have hvalues : ∀ other ∈ level.positionals,
      next.valuesOf other = wordValues next.words other := by
    intro other hother
    rw [valuesOf_give hlevel htallied h hother hgive, (words_of_give hgive).1, wordValues_concat,
      h.values other hother]
  obtain ⟨settled, -, rfl⟩ := give_ok hgive
  refine ⟨fun pending hsome => ?_, fun option hoption => ?_, hvalues⟩
  · cases hsome
    exact Or.inr ⟨harg, List.concat_ne_nil _ _⟩
  · -- a positional collects, or nothing does
    dsimp only at hoption
    split at hoption
    · cases hoption
    · cases hoption

/-- No change of how far reading has come loses a value of a positional. -/
theorem collected_of_move (hlevel : level.KeepsWords) (htallied : progress.Tallied level)
    (h : progress.Collected level) (hmove : Move level word progress next) :
    next.Collected level := by
  cases hmove with
  | @occur _ _ option values hmem hoption hoccur =>
    obtain ⟨hwords, -⟩ := words_of_wordless (.occur hmem hoption hoccur)
    obtain ⟨settled, records, hsettle, hrecord, rfl⟩ := occur_ok hoccur
    obtain ⟨settledRecords, rfl⟩ := settle_eq hsettle
    refine ⟨fun _ hnone => (by cases hnone), fun _ hnothing => (by cases hnothing),
      fun arg harg => ?_⟩
    have hne := hlevel.alone arg harg option hmem hoption (Or.inl (record_ok hrecord).2.1)
    have hsettled := valuesOf_settle hlevel htallied h hsettle harg
    rw [valuesOf_of_none rfl] at hsettled ⊢
    rw [hwords, ← h.values arg harg, ← hsettled]
    exact typedValues_congr (get?_of_record_ne hrecord hne)
  | @start _ _ option hmem hoption htakes hstart =>
    obtain ⟨hwords, -⟩ := words_of_wordless (.start hmem hoption htakes hstart)
    obtain ⟨settled, hsettle, rfl⟩ := startCollecting_ok hstart
    obtain ⟨settledRecords, rfl⟩ := settle_eq hsettle
    refine ⟨fun pending hpending => ?_, fun arg harg => ?_, fun arg harg => ?_⟩
    · cases hpending
      exact Or.inl ⟨hmem, hoption, htakes⟩
    · cases harg
      exact hoption
    · have hne := hlevel.alone arg harg option hmem hoption (Or.inr htakes)
      have hsettled := valuesOf_settle hlevel htallied h hsettle harg
      rw [valuesOf_of_none rfl] at hsettled
      rw [hwords, ← h.values arg harg, ← hsettled]
      exact valuesOf_of_ne rfl hne
  | terminator => exact ⟨h.pending, h.collecting, h.values⟩
  | @value _ option values collecting hcollects hcollecting =>
    -- the option that collects is the one that is pending, so no positional waits
    obtain ⟨before, hpending⟩ := htallied.collecting option hcollects
    have hoption := h.collecting option hcollects
    have hsound : option ∈ level.args ∧ option.takesValues = true := by
      rcases h.pending _ hpending with ⟨hmem, -, htakes⟩ | ⟨hmem, -⟩
      · exact ⟨hmem, htakes⟩
      · have hpositional := (List.mem_filter.1 hmem).2
        rw [hoption] at hpositional
        cases hpositional
    refine ⟨fun pending hsome => ?_, fun arg harg => ?_, fun arg harg => ?_⟩
    · cases hsome
      exact Or.inl ⟨hsound.1, hoption, hsound.2⟩
    · rcases hcollecting with rfl | rfl
      · cases harg
        exact hoption
      · cases harg
    · have hne := hlevel.alone arg harg option hsound.1 hoption (Or.inr hsound.2)
      have hvalues := h.values arg harg
      rw [valuesOf_of_ne hpending hne] at hvalues
      rw [valuesOf_of_ne rfl hne]
      exact hvalues
  | give hplace _ hgive =>
    exact collected_of_give hlevel htallied h (List.mem_of_getElem? hplace) hgive

/-! ## The order of the words -/

theorem inOrder_start (level : Level) : Progress.InOrder level {} where
  grouped := by
    show level.positionals.flatMap (fun _ => []) = []
    simp
  reached _ _ word h := by cases h

/-- If no later positional has a word, one more word stands last by positional, too. -/
theorem flatMap_filter_concat {before after : List Arg} {words : List (String × String)}
    (taken : String) (hbefore : ∀ other ∈ before, other.id ≠ arg.id)
    (hafter : ∀ other ∈ after, other.id ≠ arg.id)
    (hnone : ∀ other ∈ after, ∀ word ∈ words, word.1 ≠ other.id) :
    (before ++ arg :: after).flatMap (fun other =>
        (words ++ [(arg.id, taken)]).filter (·.1 = other.id))
      = (before ++ arg :: after).flatMap (fun other => words.filter (·.1 = other.id))
        ++ [(arg.id, taken)] := by
  have hfront : before.flatMap (fun other => (words ++ [(arg.id, taken)]).filter (·.1 = other.id))
      = before.flatMap (fun other => words.filter (·.1 = other.id)) := by
    refine List.flatMap_congr fun other hother => ?_
    simp [Ne.symm (hbefore other hother)]
  have hbehind : ∀ other ∈ after, words.filter (·.1 = other.id) = [] := by
    intro other hother
    refine List.filter_eq_nil_iff.2 fun word hword => ?_
    simpa using hnone other hother word hword
  have hback : after.flatMap (fun other => (words ++ [(arg.id, taken)]).filter (·.1 = other.id))
      = [] := by
    refine List.flatMap_eq_nil_iff.2 fun other hother => ?_
    simp [hbehind other hother, Ne.symm (hafter other hother)]
  rw [List.flatMap_append, List.flatMap_append, List.flatMap_cons, List.flatMap_cons, hfront, hback,
    List.flatMap_eq_nil_iff.2 hbehind]
  simp

/-- No change of how far reading has come takes a word for an earlier positional. -/
theorem inOrder_of_move (hlevel : level.KeepsWords) (h : progress.InOrder level)
    (hmove : Move level word progress next) : next.InOrder level := by
  cases word with
  | none =>
    obtain ⟨hwords, hposition⟩ := words_of_wordless hmove
    exact ⟨by rw [hwords]; exact h.grouped, by rw [hwords, hposition]; exact h.reached⟩
  | some taken =>
    cases hmove with
    | @give _ _ arg place _ hplace hlater hgive =>
      obtain ⟨hwords, hposition⟩ := words_of_give hgive
      obtain ⟨hsplit, hbefore, hafter⟩ := hlevel.around hplace
      -- behind the place there is no word, as it is the turn of none of them, or there is none
      have hnone : ∀ other ∈ level.positionals.drop (place + 1), ∀ word ∈ progress.words,
          word.1 ≠ other.id := by
        intro other hother
        rcases hlater with hle | hlast
        · exact h.reached other ((List.drop_sublist_drop_left _ (by omega)).subset hother)
        · rw [hlast, List.drop_length] at hother
          cases hother
      constructor
      · have hconcat := flatMap_filter_concat taken hbefore hafter hnone
        rw [← hsplit, h.grouped] at hconcat
        rw [hwords]
        exact hconcat
      · intro other hother
        have hlater : other ∈ level.positionals.drop (place + 1) :=
          (List.drop_sublist_drop_left _ (by omega)).subset hother
        rw [hwords, List.forall_mem_append, List.forall_mem_singleton]
        exact ⟨hnone other hlater, Ne.symm (hafter other hlater)⟩

/-! ## Levels that end -/

theorem words_kept_of_moves (hlevel : level.KeepsWords) (hmoves : Moves level {} progress) :
    progress.Tallied level ∧ progress.Collected level ∧ progress.InOrder level := by
  induction hmoves with
  | refl => exact ⟨tallied_start level, collected_start level, inOrder_start level⟩
  | tail _ hmove ih =>
    obtain ⟨htallied, hcollected, horder⟩ := ih
    obtain ⟨word, hmove⟩ := hmove
    exact ⟨tallied_of_move htallied hmove, collected_of_move hlevel htallied hcollected hmove,
      inOrder_of_move hlevel horder hmove⟩

/-- Records that agree on what was typed have the same values of it. -/
theorem typedValues_eq_of_typed (hrecords : records.ids.Nodup) (hafter : after.ids.Nodup)
    (h : ∀ record, record.source = .commandLine → (record ∈ after ↔ record ∈ records))
    (id : String) : CommandNode.typedValues after id = CommandNode.typedValues records id := by
  have htyped : (after.get? id).filter (·.source = .commandLine)
      = (records.get? id).filter (·.source = .commandLine) := by
    refine Option.ext fun record => ?_
    rw [Option.filter_eq_some_iff, Option.filter_eq_some_iff, Matches.get?_eq_some_iff hafter,
      Matches.get?_eq_some_iff hrecords, decide_eq_true_eq]
    refine and_congr_left fun hsource => and_congr_left fun _ => ?_
    exact h record hsource
  rw [CommandNode.typedValues, CommandNode.typedValues, htyped]

/-- A level that ended has the words that were taken and, for each positional, their values. -/
theorem typedValues_of_finish (hlevel : level.KeepsWords) (htallied : progress.Tallied level)
    (hcollected : progress.Collected level) {descended : Bool} {top : LevelRecord}
    (hfinish : finish level progress descended = .ok top) :
    top.words = progress.words ∧ ∀ arg ∈ level.positionals,
      CommandNode.typedValues top.records arg.id = wordValues progress.words arg := by
  obtain ⟨settled, records, hsettle, hdefaults, -, -, rfl⟩ := finish_ok hfinish
  obtain ⟨hcounted, hnone⟩ := counted_of_settle htallied.toCounted hsettle
  obtain ⟨hapart, hsame⟩ := addDefaults_typed hcounted.records.apart hdefaults
  constructor
  · obtain ⟨settledRecords, rfl⟩ := settle_eq hsettle
    rfl
  · -- defaults and settling leave the values of the words as they were
    intro arg harg
    rw [typedValues_eq_of_typed hcounted.records.apart hapart hsame, ← valuesOf_of_none hnone,
      valuesOf_settle hlevel htallied hcollected hsettle harg, hcollected.values arg harg]

/-- Words that stand in the order of the positionals can be told with the positionals themselves. -/
theorem exists_typed (h : progress.InOrder level) :
    ∃ typed : List (Arg × String), typed.map (fun pair => (pair.1.id, pair.2)) = progress.words
      ∧ (∀ pair ∈ typed, pair.1 ∈ level.positionals)
      ∧ level.positionals.flatMap (wordValues progress.words)
        = typed.flatMap fun pair => splitValue pair.1 pair.2 := by
  refine ⟨level.positionals.flatMap fun arg =>
    (progress.words.filter (·.1 = arg.id)).map fun word => (arg, word.2), ?_, ?_, ?_⟩
  · refine Eq.trans ?_ h.grouped
    rw [List.map_flatMap]
    refine List.flatMap_congr fun arg _ => ?_
    rw [List.map_map]
    have hid : ∀ word ∈ progress.words.filter (·.1 = arg.id), (arg.id, word.2) = word := by
      intro word hword
      have hsame : word.1 = arg.id := by simpa using (List.mem_filter.1 hword).2
      rw [← hsame]
    exact (List.map_congr_left hid).trans (List.map_id' _)
  · intro pair hpair
    obtain ⟨arg, harg, hpair⟩ := List.mem_flatMap.1 hpair
    obtain ⟨word, -, rfl⟩ := List.mem_map.1 hpair
    exact harg
  · rw [List.flatMap_assoc]
    refine List.flatMap_congr fun arg _ => ?_
    rw [List.flatMap_map]
    rfl

/-- The values recorded for the positionals of a level that ended, in their order, are the words
that were typed for them, in the order of typing. -/
theorem words_of_finish (hlevel : level.KeepsWords) (hmoves : Moves level {} progress)
    {descended : Bool} {top : LevelRecord} (hfinish : finish level progress descended = .ok top) :
    ∃ typed : List (Arg × String), typed.map (fun pair => (pair.1.id, pair.2)) = top.words
      ∧ (∀ pair ∈ typed, pair.1 ∈ level.positionals) ∧ top.words = progress.words
      ∧ level.positionals.flatMap (fun arg => CommandNode.typedValues top.records arg.id)
        = typed.flatMap fun pair => splitValue pair.1 pair.2 := by
  obtain ⟨htallied, hcollected, horder⟩ := words_kept_of_moves hlevel hmoves
  obtain ⟨hwords, hvalues⟩ := typedValues_of_finish hlevel htallied hcollected hfinish
  obtain ⟨typed, htyped, hmem, hsplit⟩ := exists_typed horder
  exact ⟨typed, htyped.trans hwords.symm, hmem, hwords,
    (List.flatMap_congr hvalues).trans hsplit⟩

/-! ## The order of the command line -/

theorem words_of_turned {argument : String} (h : Turned level argument progress next) :
    (next.words.map (·.2)).Sublist (progress.words.map (·.2) ++ [argument]) := by
  cases h with
  | word hmove =>
    cases hmove with
    | give _ _ hgive =>
      obtain ⟨hwords, -⟩ := words_of_give hgive
      rw [hwords, List.map_append]
      exact List.Sublist.refl _
  | wordless hmoves =>
    have hwords : next.words = progress.words := by
      induction hmoves with
      | refl => rfl
      | tail _ hmove ih => exact (words_of_wordless hmove).1.trans ih
    rw [hwords]
    exact List.sublist_append_left _ _

/-- The words of the level that runs are arguments, in the order of the command line. -/
theorem words_sublist (level : Level) (progress : Progress) (arguments : List String) :
    ((innermost level progress arguments).2.words.map (·.2)).Sublist
      (progress.words.map (·.2) ++ arguments) := by
  fun_induction innermost level progress arguments with
  | case1 level progress => exact List.sublist_append_left _ _
  | case2 level progress argument rest next hturn ih =>
    obtain ⟨_, hstay, hturned⟩ | ⟨_, hdescend, -⟩ | hhelp | ⟨⟨_, hexternal⟩, -⟩ := turn_ok hturn
    · cases hstay
      have hbefore := (words_of_turned hturned).append_right rest
      rw [List.append_assoc] at hbefore
      exact ih.trans hbefore
    · cases hdescend
    · cases hhelp
    · cases hexternal
  | case3 level progress argument rest sub hturn ih =>
    have hbehind : rest.Sublist (argument :: rest) := List.sublist_cons_self _ _
    exact ih.trans (hbehind.trans (List.sublist_append_right _ _))
  | case4 level progress argument rest => exact List.sublist_append_left _ _

end Reader

end CommandTelemetry
