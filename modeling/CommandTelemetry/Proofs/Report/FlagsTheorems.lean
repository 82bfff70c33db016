import CommandTelemetry.Proofs.Text.Utf8Theorems
import CommandTelemetry.Report.Flags
import Mathlib.Data.List.Dedup
import Mathlib.Data.List.Induction

/-!
# Flags as a table

* `Flags.get?_put` and `Flags.get?_ofPairs_eq_some_iff` say what is found under a name;
* `Flags.mem_names_ofPairs` says which names there are when some were put, and
  `Flags.length_pairs_eq` counts them;
* `Flags.ofPairs_pairs` says that flags put one after the other in their order are these flags;
* `Flags.encode_names_sorted` says that the order is the one of the UTF-8 bytes.
-/

namespace CommandTelemetry

namespace Flags

/-! ## What is found under a name -/

theorem find?_putSorted (name value other : String) (pairs : List (String × String)) :
    (putSorted name value pairs).find? (·.1 = other)
      = if name = other then some (name, value) else pairs.find? (·.1 = other) := by
  induction pairs with
  | nil => by_cases hother : name = other <;> simp [putSorted, hother]
  | cons pair rest ih =>
    obtain ⟨n, v⟩ := pair
    rw [putSorted]
    split
    · by_cases hother : name = other <;> simp [hother]
    · split
      · -- the value that the name had is gone
        next _ hsame =>
        subst hsame
        by_cases hother : name = other <;> simp [hother]
      · next _ hne =>
        rw [List.find?_cons, List.find?_cons, ih]
        by_cases hn : n = other
        · have hname : ¬ name = other := fun hname => hne (hname.trans hn.symm)
          simp [hn, hname]
        · simp [hn]

theorem get?_put (flags : Flags) (name value other : String) :
    (flags.put name value).get? other = if name = other then some value else flags.get? other := by
  rw [get?, get?, put, find?_putSorted]
  split
  · rfl
  · rfl

/-- Under a name stands the value that was put last. -/
theorem get?_ofPairs_append (pairs : List (String × String)) (name value other : String) :
    (ofPairs (pairs ++ [(name, value)])).get? other
      = if name = other then some value else (ofPairs pairs).get? other := by
  rw [ofPairs, List.foldl_append, List.foldl_cons, List.foldl_nil, get?_put]
  rfl

/-- Where no name is put twice, what is found is what was put. -/
theorem get?_ofPairs_eq_some_iff {pairs : List (String × String)} (h : (pairs.map (·.1)).Nodup)
    {name value : String} : (ofPairs pairs).get? name = some value ↔ (name, value) ∈ pairs := by
  induction pairs using List.reverseRecOn with
  | nil => simp [ofPairs, get?, empty]
  | append_singleton pairs last ih =>
    obtain ⟨n, v⟩ := last
    rw [List.map_append, List.nodup_append] at h
    rw [get?_ofPairs_append, List.mem_append, List.mem_singleton, Prod.mk.injEq]
    split
    · next hsame =>
      subst hsame
      have hnew : (n, value) ∉ pairs := fun hmem =>
        h.2.2 n (List.mem_map_of_mem hmem) n (List.mem_singleton_self n) rfl
      simp only [hnew, Option.some.injEq, true_and, false_or, eq_comm]
    · next hne =>
      have hother : ¬ name = n := fun hsame => hne hsame.symm
      rw [ih h.1]
      simp only [hother, false_and, or_false]

theorem mem_of_get?_ofPairs {pairs : List (String × String)} {name value : String}
    (h : (ofPairs pairs).get? name = some value) : (name, value) ∈ pairs := by
  induction pairs using List.reverseRecOn with
  | nil => simp [ofPairs, get?, empty] at h
  | append_singleton pairs last ih =>
    obtain ⟨n, v⟩ := last
    rw [get?_ofPairs_append] at h
    split at h
    · next hsame =>
      rw [hsame, Option.some.inj h]
      exact List.mem_append_right _ (List.mem_singleton_self _)
    · exact List.mem_append_left _ (ih h)

/-! ## How many flags there are -/

theorem isSome_get?_iff {flags : Flags} {name : String} :
    (flags.get? name).isSome = true ↔ name ∈ flags.names := by
  simp [get?, names]

/-- Flags that are put one after the other have the names that were put. -/
theorem mem_names_ofPairs {pairs : List (String × String)} {name : String} :
    name ∈ (ofPairs pairs).names ↔ name ∈ pairs.map (·.1) := by
  induction pairs using List.reverseRecOn with
  | nil => simp [ofPairs, names, empty]
  | append_singleton pairs last ih =>
    obtain ⟨n, v⟩ := last
    rw [← isSome_get?_iff, get?_ofPairs_append, List.map_append, List.mem_append,
      List.map_singleton, List.mem_singleton]
    split
    · next hsame => simp [hsame]
    · next hne =>
      have hother : ¬ name = n := fun hsame => hne hsame.symm
      rw [isSome_get?_iff, ih, or_iff_left hother]

theorem nodup_names (flags : Flags) : flags.names.Nodup := by
  refine flags.names_sorted.imp fun {first second} hlt hsame => ?_
  subst hsame
  exact String.lt_irrefl first hlt

/-- There are as many flags as there are different names among those that have one. -/
theorem length_pairs_eq {flags : Flags} {names : List String}
    (h : ∀ name, name ∈ flags.names ↔ name ∈ names) :
    flags.pairs.length = names.dedup.length := by
  have hsame : flags.names.Perm names.dedup := by
    refine (List.perm_ext_iff_of_nodup flags.nodup_names names.nodup_dedup).2 fun name => ?_
    rw [h, List.mem_dedup]
  rw [← hsame.length_eq, Flags.names, List.length_map]

/-! ## The order of the flags -/

theorem putSorted_of_forall_lt {name value : String} {pairs : List (String × String)}
    (h : ∀ pair ∈ pairs, pair.1 < name) :
    putSorted name value pairs = pairs ++ [(name, value)] := by
  induction pairs with
  | nil => rfl
  | cons pair rest ih =>
    obtain ⟨n, v⟩ := pair
    have hlt : n < name := h _ List.mem_cons_self
    have hnot : ¬ name < n := fun hgt => String.lt_irrefl n (String.lt_trans hlt hgt)
    have hne : ¬ name = n := fun hsame => String.lt_irrefl n (hsame ▸ hlt)
    have hrest : ∀ pair ∈ rest, pair.1 < name := fun pair hpair =>
      h pair (List.mem_cons_of_mem _ hpair)
    rw [putSorted, if_neg hnot, if_neg hne, ih hrest, List.cons_append]

theorem pairs_ofPairs_of_sorted {pairs : List (String × String)}
    (h : pairs.Pairwise (·.1 < ·.1)) : (ofPairs pairs).pairs = pairs := by
  induction pairs using List.reverseRecOn with
  | nil => rfl
  | append_singleton pairs last ih =>
    rw [List.pairwise_append] at h
    have hlast : ∀ pair ∈ pairs, pair.1 < last.1 := fun pair hpair =>
      h.2.2 pair hpair last (List.mem_singleton_self last)
    have hbefore : (ofPairs pairs).pairs = pairs := ih h.1
    calc (ofPairs (pairs ++ [last])).pairs
        = putSorted last.1 last.2 (ofPairs pairs).pairs := by rw [ofPairs, List.foldl_append]; rfl
      _ = putSorted last.1 last.2 pairs := by rw [hbefore]
      _ = pairs ++ [last] := putSorted_of_forall_lt hlast

/-- Flags put one after the other in their order are the same flags. -/
theorem ofPairs_pairs (flags : Flags) : ofPairs flags.pairs = flags := by
  obtain ⟨pairs, sorted⟩ := flags
  rw [mk.injEq]
  exact pairs_ofPairs_of_sorted sorted

/-- The UTF-8 bytes of the names are strictly increasing. -/
theorem encode_names_sorted (flags : Flags) :
    (flags.names.map Utf8.encode).Pairwise (· < ·) :=
  List.pairwise_map.2 (flags.names_sorted.imp Utf8.encode_lt_encode)

end Flags

end CommandTelemetry
