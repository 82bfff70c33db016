/-!
# Reported flags

The flags of a report by name, in the order of their names. Names are ordered by code point, which
is also the order of their UTF-8 bytes. One name has one value, and the last one put wins.

* `Flags` carries the order as a proof;
* `Flags.put` and `Flags.ofPairs` build it, `Flags.get?` reads it.
-/

namespace CommandTelemetry

/-- Puts a pair into its place, over the value that its name had. -/
def putSorted (name value : String) : List (String × String) → List (String × String)
  | [] => [(name, value)]
  | (n, v) :: rest =>
    if name < n then (name, value) :: (n, v) :: rest
    else if name = n then (name, value) :: rest
    else (n, v) :: putSorted name value rest

private theorem lt_of_not {a b : String} (hlt : ¬ a < b) (hne : ¬ a = b) : b < a := by
  rcases Std.lt_trichotomy a b with h | h | h
  · exact absurd h hlt
  · exact absurd h hne
  · exact h

private theorem mem_putSorted {name value : String} {pairs : List (String × String)}
    {p : String × String} (h : p ∈ putSorted name value pairs) : p = (name, value) ∨ p ∈ pairs := by
  induction pairs with
  | nil => simpa [putSorted] using h
  | cons q rest ih =>
    obtain ⟨n, v⟩ := q
    rw [putSorted] at h
    split at h
    · simpa using h
    · split at h
      · rcases List.mem_cons.1 h with h | h
        · exact .inl h
        · exact .inr (List.mem_cons_of_mem _ h)
      · rcases List.mem_cons.1 h with h | h
        · exact .inr (h ▸ List.mem_cons_self)
        · rcases ih h with h | h
          · exact .inl h
          · exact .inr (List.mem_cons_of_mem _ h)

private theorem putSorted_sorted (name value : String) {pairs : List (String × String)}
    (h : pairs.Pairwise (·.1 < ·.1)) : (putSorted name value pairs).Pairwise (·.1 < ·.1) := by
  induction pairs with
  | nil => simp [putSorted]
  | cons q rest ih =>
    obtain ⟨n, v⟩ := q
    rw [List.pairwise_cons] at h
    rw [putSorted]
    split
    · next hlt =>
      refine List.pairwise_cons.2 ⟨?_, List.pairwise_cons.2 h⟩
      intro p hp
      rcases List.mem_cons.1 hp with rfl | hp
      · exact hlt
      · exact String.lt_trans hlt (h.1 p hp)
    · next hlt =>
      split
      · next heq => exact List.pairwise_cons.2 ⟨fun p hp => heq ▸ h.1 p hp, h.2⟩
      · next hne =>
        refine List.pairwise_cons.2 ⟨?_, ih h.2⟩
        intro p hp
        rcases mem_putSorted hp with rfl | hp
        · exact lt_of_not hlt hne
        · exact h.1 p hp

/-- The flags of a report: names with their values, in the order of the names. -/
structure Flags where
  pairs : List (String × String)
  sorted : pairs.Pairwise (·.1 < ·.1)
deriving DecidableEq

namespace Flags

/-- No flags. -/
def empty : Flags := ⟨[], .nil⟩

/-- One more flag, over the value that its name had. -/
def put (flags : Flags) (name value : String) : Flags :=
  ⟨putSorted name value flags.pairs, putSorted_sorted name value flags.sorted⟩

/-- Flags put one after the other. -/
def ofPairs (pairs : List (String × String)) : Flags :=
  pairs.foldl (fun flags pair => flags.put pair.1 pair.2) empty

/-- The value of a flag. -/
def get? (flags : Flags) (name : String) : Option String :=
  (flags.pairs.find? (·.1 = name)).map (·.2)

/-- The names of the flags. -/
def names (flags : Flags) : List String := flags.pairs.map (·.1)

/-- The names are strictly increasing. -/
theorem names_sorted (flags : Flags) : flags.names.Pairwise (· < ·) :=
  List.pairwise_map.2 flags.sorted

end Flags

end CommandTelemetry
