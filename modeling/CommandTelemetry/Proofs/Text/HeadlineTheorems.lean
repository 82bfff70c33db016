import CommandTelemetry.Text.Headline

/-!
# Headlines say something

* `Text.mem_trim_of_not_blank` says that trimming takes nothing but blanks away;
* `Text.saysNothing_headline` says that a headline is never blank unless its label is.
-/

namespace CommandTelemetry.Text

variable {c : Char} {cs : List Char}

theorem saysNothing_eq_false_iff {s : String} :
    saysNothing s = false ↔ ∃ c ∈ s.toList, isBlank c = false := by
  rw [saysNothing, List.all_eq_false]
  simp only [Bool.not_eq_true]

/-- A text that begins with words says something. -/
theorem saysNothing_append {s : String} (h : saysNothing s = false) (t : String) :
    saysNothing (s ++ t) = false := by
  obtain ⟨c, hc, hblank⟩ := saysNothing_eq_false_iff.1 h
  rw [saysNothing_eq_false_iff, String.toList_append]
  exact ⟨c, List.mem_append_left _ hc, hblank⟩

theorem mem_trimFront_of_not_blank (hc : c ∈ cs) (hblank : isBlank c = false) :
    c ∈ trimFront cs := by
  have hsplit : c ∈ cs.takeWhile isBlank ++ cs.dropWhile isBlank := by
    rw [List.takeWhile_append_dropWhile]
    exact hc
  rcases List.mem_append.1 hsplit with htaken | hleft
  · have hall := List.all_eq_true.1 List.all_takeWhile c htaken
    rw [hblank] at hall
    cases hall
  · exact hleft

/-- What is no blank is still there after trimming. -/
theorem mem_trim_of_not_blank (hc : c ∈ cs) (hblank : isBlank c = false) : c ∈ trim cs := by
  rw [trim, List.mem_reverse]
  apply mem_trimFront_of_not_blank _ hblank
  rw [List.mem_reverse]
  exact mem_trimFront_of_not_blank hc hblank

/-- A trimmed text is empty or says something. -/
theorem saysNothing_trim (h : trim cs ≠ []) : saysNothing (String.ofList (trim cs)) = false := by
  have hnot : ¬ ∀ c ∈ cs, isBlank c = true := fun hall => h (trim_eq_nil_iff.2 hall)
  obtain ⟨c, hkept⟩ := Classical.not_forall.1 hnot
  obtain ⟨hc, hblank⟩ := Classical.not_imp.1 hkept
  rw [saysNothing_eq_false_iff, String.toList_ofList]
  exact ⟨c, mem_trim_of_not_blank hc (eq_false_of_ne_true hblank),
    eq_false_of_ne_true hblank⟩

/-- A headline says something, if only by its label. -/
theorem saysNothing_headline (marker : String) {label : String} (printed : String)
    (hlabel : saysNothing label = false) :
    saysNothing (headline marker label printed) = false := by
  unfold headline
  dsimp only
  split
  · exact hlabel
  · next hmessage => exact saysNothing_trim hmessage

end CommandTelemetry.Text
