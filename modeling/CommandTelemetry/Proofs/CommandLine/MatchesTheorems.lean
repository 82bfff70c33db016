import CommandTelemetry.CommandLine.Matches
import Mathlib.Data.List.Nodup

/-!
# The records of a level as a table

* `Matches.ids` are the arguments that have a record, each of them once where `ids.Nodup`;
* `Matches.get?_put` and `Matches.get?_eq_some_iff` say what is found under an id, and
  `Matches.isTyped_iff` when it was typed;
* `Matches.get?_foldl_put` is for many records that are put one after the other.
-/

namespace CommandTelemetry

namespace Matches

variable {records : Matches} {record new : Match} {id : String}

/-- The ids of the arguments that have a record. -/
def ids (records : Matches) : List String := records.map (·.id)

theorem mem_ids : id ∈ records.ids ↔ ∃ record ∈ records, record.id = id := List.mem_map

theorem ids_append (records more : Matches) : ids (records ++ more) = records.ids ++ more.ids :=
  List.map_append

theorem get?_cons (first : Match) (rest : Matches) (id : String) :
    get? (first :: rest) id = if first.id = id then some first else rest.get? id := by
  rw [get?, List.find?_cons]
  by_cases hsame : first.id = id
  · rw [if_pos hsame, decide_eq_true hsame]
  · rw [if_neg hsame, decide_eq_false hsame, get?]

theorem get?_eq_none_iff : records.get? id = none ↔ id ∉ records.ids := by
  rw [get?, List.find?_eq_none, mem_ids]
  simp only [decide_eq_true_eq, not_exists, not_and]

theorem id_of_get? (h : records.get? id = some record) : record.id = id := by
  rw [get?] at h
  simpa using List.find?_some h

/-- Where every argument has one record, this is the one that is found. -/
theorem get?_eq_some_iff (h : records.ids.Nodup) :
    records.get? id = some record ↔ record ∈ records ∧ record.id = id := by
  constructor
  · intro hfind
    exact ⟨List.mem_of_find?_eq_some hfind, id_of_get? hfind⟩
  · rintro ⟨hmem, rfl⟩
    cases hfind : records.get? record.id with
    | none => exact absurd (mem_ids.2 ⟨record, hmem, rfl⟩) (get?_eq_none_iff.1 hfind)
    | some found =>
      have hfound : found ∈ records := List.mem_of_find?_eq_some hfind
      have hsame : found.id = record.id := id_of_get? hfind
      rw [List.inj_on_of_nodup_map h hfound hmem hsame]

theorem isTyped_iff (h : records.ids.Nodup) :
    records.isTyped id = true
      ↔ ∃ record ∈ records, record.id = id ∧ record.source = .commandLine := by
  rw [isTyped, Option.any_eq_true]
  simp only [get?_eq_some_iff h, decide_eq_true_eq, and_assoc]

/-! ## Putting a record -/

theorem any_id_eq : records.any (·.id = id) = decide (id ∈ records.ids) := by
  rw [Bool.eq_iff_iff, List.any_eq_true, decide_eq_true_eq, mem_ids]
  simp only [decide_eq_true_eq]

/-- The record that takes the place of those with its id. -/
theorem id_replace (new old : Match) : (if old.id = new.id then new else old).id = old.id := by
  split
  · next hsame => exact hsame.symm
  · rfl

/-- A record that is put keeps the places of all others. -/
theorem ids_put (records : Matches) (new : Match) :
    (records.put new).ids
      = if new.id ∈ records.ids then records.ids else records.ids ++ [new.id] := by
  rw [put, any_id_eq]
  by_cases hmem : new.id ∈ records.ids
  · rw [if_pos hmem, if_pos (decide_eq_true hmem), ids, List.map_map]
    exact List.map_congr_left fun old _ => id_replace new old
  · rw [if_neg hmem, if_neg (by simpa using hmem), ids_append]
    rfl

theorem nodup_ids_append (h : records.ids.Nodup) (hnew : new.id ∉ records.ids) :
    ids (records ++ [new]) |>.Nodup := by
  rw [ids_append]
  exact List.concat_eq_append ▸ h.concat hnew

theorem nodup_ids_put (h : records.ids.Nodup) (new : Match) : (records.put new).ids.Nodup := by
  rw [ids_put]
  split
  · exact h
  · next hnew => exact List.concat_eq_append ▸ h.concat hnew

theorem mem_ids_put : id ∈ (records.put new).ids ↔ id ∈ records.ids ∨ id = new.id := by
  rw [ids_put]
  split
  · next hmem => exact ⟨Or.inl, fun h => h.elim (fun hid => hid) fun hsame => hsame ▸ hmem⟩
  · rw [List.mem_append, List.mem_singleton]

theorem get?_put_self (records : Matches) (new : Match) :
    (records.put new).get? new.id = some new := by
  rw [put, any_id_eq]
  by_cases hmem : new.id ∈ records.ids
  · rw [if_pos (decide_eq_true hmem), get?, List.find?_map]
    simp only [Function.comp_def, id_replace]
    cases hfind : records.get? new.id with
    | none => exact absurd hmem (get?_eq_none_iff.1 hfind)
    | some old =>
      have hsame : old.id = new.id := id_of_get? hfind
      rw [get?] at hfind
      rw [hfind, Option.map_some, if_pos hsame]
  · have hnone := get?_eq_none_iff.2 hmem
    rw [get?] at hnone
    rw [if_neg (by simpa using hmem), get?, List.find?_append, hnone]
    simp

theorem get?_put_of_ne (records : Matches) (h : new.id ≠ id) :
    (records.put new).get? id = records.get? id := by
  rw [put]
  split
  · rw [get?, List.find?_map]
    simp only [Function.comp_def, id_replace]
    cases hfind : records.get? id with
    | none =>
      rw [get?] at hfind
      rw [hfind, Option.map_none]
    | some old =>
      have hsame : old.id = id := id_of_get? hfind
      rw [get?] at hfind
      rw [hfind, Option.map_some, if_neg fun hnew => h (hnew.symm.trans hsame)]
  · rw [get?, List.find?_append, List.find?_singleton, if_neg (by simpa using h), Option.or_none,
      get?]

/-- What is put is found, and everything else is found as before. -/
theorem get?_put (records : Matches) (new : Match) (id : String) :
    (records.put new).get? id = if new.id = id then some new else records.get? id := by
  split
  · next hsame => rw [← hsame, get?_put_self]
  · next hne => exact get?_put_of_ne records hne

theorem nodup_ids_foldl_put (h : records.ids.Nodup) (more : Matches) :
    (more.foldl put records).ids.Nodup := by
  induction more generalizing records with
  | nil => exact h
  | cons new rest ih => exact ih (nodup_ids_put h new)

/-- Records that are put one after the other are found before those that were there. -/
theorem get?_foldl_put {more : Matches} (h : more.ids.Nodup) (records : Matches) (id : String) :
    (more.foldl put records).get? id = (more.get? id).or (records.get? id) := by
  induction more generalizing records with
  | nil => rfl
  | cons new rest ih =>
    rw [ids, List.map_cons, List.nodup_cons] at h
    rw [List.foldl_cons, ih h.2, get?_put, get?_cons]
    by_cases hsame : new.id = id
    · -- no later record has the same id
      have hnone : get? rest id = none := get?_eq_none_iff.2 (hsame ▸ h.1)
      rw [hnone, if_pos hsame, if_pos hsame, Option.none_or, Option.some_or]
    · rw [if_neg hsame, if_neg hsame]

/-- The records of others are those that stay when one is dropped. -/
theorem ids_drop (records : Matches) (id : String) :
    (records.drop id).ids = records.ids.filter (· ≠ id) := by
  rw [drop, ids, ids, List.filter_map]
  rfl

end Matches

end CommandTelemetry
