import CommandTelemetry.Proofs.Text.HeadlineTheorems

/-!
# What a printed message says

A headline is what the first line of a printed message says: that line without the blanks at both
ends, without the marker if it starts with one, and without the blanks at both ends once more. Each
of these steps is told here by how the text is put together.

* `Text.trims_iff` says that trimming leaves what lies between the blanks at both ends;
* `Text.trim_firstLine` says that a carriage return at the end of the first line does not matter;
* `Text.headline_of_tells` says which line a headline is, and `Text.isClean_headline` that it is a
  clean one;
* `Text.prefix_headline` says that the words a message begins with are kept.
-/

namespace CommandTelemetry

namespace Text

variable {cs core line front back rest message : List Char}

/-! ## Between the blanks -/

/-- No blank stands at either end. -/
structure IsBare (cs : List Char) : Prop where
  head : ∀ c ∈ cs.head?, isBlank c = false
  last : ∀ c ∈ cs.getLast?, isBlank c = false

/-- A text is some blanks, a core with no blank at either end, and some blanks. -/
structure Trims (cs core : List Char) : Prop where
  bare : IsBare core
  around : ∃ front back, cs = front ++ core ++ back
    ∧ (∀ c ∈ front, isBlank c = true) ∧ ∀ c ∈ back, isBlank c = true

theorem trimFront_append (hfront : ∀ c ∈ front, isBlank c = true)
    (hhead : ∀ c ∈ rest.head?, isBlank c = false) : trimFront (front ++ rest) = rest := by
  rw [trimFront, List.dropWhile_append_of_pos hfront]
  cases rest with
  | nil => rfl
  | cons c rest => simp [hhead c rfl]

theorem head_trimFront (cs : List Char) : ∀ c ∈ (trimFront cs).head?, isBlank c = false := by
  intro c hc
  have hhead := List.head?_dropWhile_not isBlank cs
  rw [trimFront, Option.mem_def] at hc
  simpa [hc] using hhead

/-- The front blanks and what is left of a text make up the text. -/
theorem exists_front (cs : List Char) :
    ∃ front, cs = front ++ trimFront cs ∧ ∀ c ∈ front, isBlank c = true := by
  refine ⟨cs.takeWhile isBlank, ?_, List.all_eq_true.1 List.all_takeWhile⟩
  rw [trimFront, List.takeWhile_append_dropWhile]

theorem trim_around (hbare : IsBare core) (hfront : ∀ c ∈ front, isBlank c = true)
    (hback : ∀ c ∈ back, isBlank c = true) : trim (front ++ core ++ back) = core := by
  by_cases hcore : core = []
  · rw [hcore, trim_eq_nil_iff, List.append_nil]
    intro c hc
    rcases List.mem_append.1 hc with hc | hc
    · exact hfront c hc
    · exact hback c hc
  · have hforward : trimFront (front ++ core ++ back) = core ++ back := by
      rw [List.append_assoc]
      apply trimFront_append hfront
      rw [List.head?_append, Option.or_of_isSome (by simp [hcore])]
      exact hbare.head
    have hbackward : trimFront (core ++ back).reverse = core.reverse := by
      rw [List.reverse_append]
      apply trimFront_append
      · simpa using hback
      · simpa using hbare.last
    rw [trim, hforward, hbackward, List.reverse_reverse]

/-- What trimming leaves has blanks around it, and none at either end. -/
theorem trims_trim (cs : List Char) : Trims cs (trim cs) := by
  obtain ⟨front, hcs, hfront⟩ := exists_front cs
  obtain ⟨back, hrest, hback⟩ := exists_front (trimFront cs).reverse
  have hcore : trimFront cs = trim cs ++ back.reverse := by
    rw [← List.reverse_inj, List.reverse_append, List.reverse_reverse, trim, List.reverse_reverse]
    exact hrest
  refine ⟨⟨?_, ?_⟩, front, back.reverse, ?_, hfront, ?_⟩
  · intro c hc
    apply head_trimFront cs
    rw [hcore, List.head?_append, Option.mem_def.1 hc]
    rfl
  · intro c hc
    apply head_trimFront (trimFront cs).reverse
    rw [trim, List.getLast?_reverse] at hc
    exact hc
  · rw [List.append_assoc, ← hcore]
    exact hcs
  · simpa using hback

/-- Trimming leaves what lies between the blanks at both ends. -/
theorem trims_iff : Trims cs core ↔ trim cs = core := by
  constructor
  · rintro ⟨hbare, front, back, rfl, hfront, hback⟩
    exact trim_around hbare hfront hback
  · rintro rfl
    exact trims_trim cs

theorem trim_cons {c : Char} (hc : isBlank c = true) : trim (c :: cs) = trim cs := by
  have hfront : trimFront (c :: cs) = trimFront cs := List.dropWhile_cons_of_pos hc
  rw [trim, hfront, ← trim]

/-- A blank at the end is trimmed away. -/
theorem trim_concat {c : Char} (hc : isBlank c = true) : trim (cs ++ [c]) = trim cs := by
  obtain ⟨hbare, front, back, hcs, hfront, hback⟩ := trims_trim cs
  apply trims_iff.1
  refine ⟨hbare, front, back ++ [c], ?_, hfront, ?_⟩
  · conv => lhs; rw [hcs]
    simp
  · intro d hd
    rcases List.mem_append.1 hd with hd | hd
    · exact hback d hd
    · rw [List.mem_singleton.1 hd]
      exact hc

theorem mem_of_mem_trim {c : Char} (h : c ∈ trim cs) : c ∈ cs := by
  obtain ⟨-, front, back, hcs, -⟩ := trims_trim cs
  rw [hcs]
  simp [h]

/-! ## The first line -/

/-- The first line of a text, without its line end: a line feed, or a carriage return and a line
feed. A carriage return alone ends no line. -/
inductive FirstLine : List Char → List Char → Prop where
  | all {line : List Char} (h : '\n' ∉ line) : FirstLine line line
  | feed {line : List Char} (rest : List Char) (h : '\n' ∉ line)
    (hreturn : line.getLast? ≠ some '\r') : FirstLine (line ++ '\n' :: rest) line
  | returnFeed {line : List Char} (rest : List Char) (h : '\n' ∉ line) :
    FirstLine (line ++ '\r' :: '\n' :: rest) line

theorem FirstLine.oneLine (h : FirstLine cs line) : '\n' ∉ line := by
  cases h <;> assumption

theorem firstLine_append (h : '\n' ∉ line) (rest : List Char) :
    firstLine (line ++ rest) = line ++ firstLine rest := by
  apply List.takeWhile_append_of_pos
  intro c hc
  rw [decide_eq_true_eq]
  rintro rfl
  exact h hc

/-- A carriage return at the end of the first line is trimmed away in any case. -/
theorem trim_firstLine (h : FirstLine cs line) : trim (firstLine cs) = trim line := by
  cases h with
  | all h =>
    have hline := firstLine_append h []
    rw [List.append_nil] at hline
    rw [hline, firstLine, List.takeWhile_nil, List.append_nil]
  | feed rest h _ =>
    have hnil : firstLine ('\n' :: rest) = [] := rfl
    rw [firstLine_append h, hnil, List.append_nil]
  | returnFeed rest h =>
    have hreturn : firstLine ('\r' :: '\n' :: rest) = ['\r'] := rfl
    rw [firstLine_append h, hreturn, trim_concat (by decide)]

theorem exists_firstLine (cs : List Char) : ∃ line, FirstLine cs line := by
  have hsplit : firstLine cs ++ cs.dropWhile (· ≠ '\n') = cs := List.takeWhile_append_dropWhile
  have hline : '\n' ∉ firstLine cs := by
    intro h
    have hne := List.all_eq_true.1 List.all_takeWhile _ h
    simp at hne
  cases hrest : cs.dropWhile (· ≠ '\n') with
  | nil =>
    rw [hrest, List.append_nil] at hsplit
    exact ⟨cs, .all (hsplit ▸ hline)⟩
  | cons c rest =>
    have hc : c = '\n' := by
      have hhead := List.head?_dropWhile_not (· ≠ '\n') cs
      rw [hrest] at hhead
      simpa using hhead
    rw [hrest, hc] at hsplit
    rw [← hsplit]
    by_cases hreturn : (firstLine cs).getLast? = some '\r'
    · obtain ⟨line, hfront⟩ := List.getLast?_eq_some_iff.1 hreturn
      rw [hfront] at hline ⊢
      refine ⟨line, ?_⟩
      rw [List.append_assoc, List.singleton_append]
      apply FirstLine.returnFeed
      exact fun h => hline (List.mem_append_left _ h)
    · exact ⟨_, .feed rest hline hreturn⟩

/-! ## The message -/

/-- A text without the marker at its front, if it starts with it. -/
inductive Unmarked (marker : List Char) : List Char → List Char → Prop where
  | marked (rest : List Char) : Unmarked marker (marker ++ rest) rest
  | unmarked {cs : List Char} (h : ¬ marker <+: cs) : Unmarked marker cs cs

theorem unmarked_iff {marker : List Char} : Unmarked marker cs rest ↔ without marker cs = rest := by
  constructor
  · rintro (_ | h)
    · rw [without, if_pos (by simp), List.drop_left]
    · rw [without, if_neg (by simpa using h)]
  · rintro rfl
    by_cases h : marker <+: cs
    · obtain ⟨rest, rfl⟩ := h
      rw [without, if_pos (by simp), List.drop_left]
      exact .marked rest
    · rw [without, if_neg (by simpa using h)]
      exact .unmarked h

/-- What a printed text says in its first line, apart from the marker and the blanks around it. -/
def Tells (marker printed message : List Char) : Prop :=
  ∃ line bare rest, FirstLine printed line ∧ Trims line bare ∧ Unmarked marker bare rest
    ∧ Trims rest message

variable {marker : List Char}

theorem tells_iff {printed : List Char} :
    Tells marker printed message ↔ trim (without marker (trim (firstLine printed))) = message := by
  constructor
  · rintro ⟨line, bare, rest, hline, hbare, hrest, hmessage⟩
    rw [trim_firstLine hline, trims_iff.1 hbare, unmarked_iff.1 hrest, trims_iff.1 hmessage]
  · rintro rfl
    obtain ⟨line, hline⟩ := exists_firstLine printed
    rw [trim_firstLine hline]
    exact ⟨line, _, _, hline, trims_trim _, unmarked_iff.2 rfl, trims_trim _⟩

/-- What a printed text says is one line. -/
theorem Tells.oneLine {printed : List Char} (h : Tells marker printed message) :
    '\n' ∉ message := by
  obtain ⟨line, bare, rest, hline, hbare, hrest, hmessage⟩ := h
  intro hmem
  rw [← trims_iff.1 hmessage] at hmem
  have hmem := mem_of_mem_trim hmem
  have hmem : '\n' ∈ bare := by
    cases hrest with
    | marked rest => exact List.mem_append_right _ hmem
    | unmarked h => exact hmem
  rw [← trims_iff.1 hbare] at hmem
  exact hline.oneLine (mem_of_mem_trim hmem)

theorem Tells.isBare {printed : List Char} (h : Tells marker printed message) : IsBare message := by
  obtain ⟨line, bare, rest, -, -, -, hmessage⟩ := h
  exact hmessage.bare

/-! ## Headlines -/

/-- A text that is not empty and has no blank at either end. -/
structure IsClean (text : String) : Prop where
  ne_empty : text ≠ ""
  bare : IsBare text.toList

theorem isClean_iff {text : String} :
    IsClean text ↔ text ≠ "" ∧ trim text.toList = text.toList := by
  rw [← trims_iff]
  constructor
  · rintro ⟨hne, hbare⟩
    exact ⟨hne, hbare, [], [], by simp, by simp, by simp⟩
  · rintro ⟨hne, hbare, -⟩
    exact ⟨hne, hbare⟩

theorem IsClean.saysNothing_eq_false {text : String} (h : IsClean text) :
    saysNothing text = false := by
  rw [saysNothing_eq_false_iff]
  cases hcs : text.toList with
  | nil => exact absurd (String.toList_eq_nil_iff.1 hcs) h.ne_empty
  | cons c cs => exact ⟨c, List.mem_cons_self, h.bare.head c (by rw [hcs]; rfl)⟩

/-- A headline is what the printed text says, or the label when it says nothing. -/
theorem headline_of_tells {marker printed : String} (label : String)
    (h : Tells marker.toList printed.toList message) :
    headline marker label printed = if message = [] then label else String.ofList message := by
  rw [headline, tells_iff.1 h]

/-- Of a clean label there are clean headlines alone. -/
theorem isClean_headline {label : String} (h : IsClean label) (marker printed : String) :
    IsClean (headline marker label printed) := by
  have htells : Tells marker.toList printed.toList _ := tells_iff.2 rfl
  rw [headline_of_tells label htells]
  split
  · exact h
  · next hmessage =>
    constructor
    · rw [Ne, String.ofList_eq_empty_iff]
      exact hmessage
    · rw [String.toList_ofList]
      exact htells.isBare

theorem headline_oneLine {label : String} (h : '\n' ∉ label.toList) (marker printed : String) :
    '\n' ∉ (headline marker label printed).toList := by
  have htells : Tells marker.toList printed.toList _ := tells_iff.2 rfl
  rw [headline_of_tells label htells]
  split
  · exact h
  · rw [String.toList_ofList]
    exact htells.oneLine

/-! ## The words at the front -/

/-- Trimming keeps words at the front that begin and end with no blank. -/
theorem prefix_trim {words : List Char} (h : IsBare words) (rest : List Char) :
    words <+: trim (words ++ rest) := by
  by_cases hnil : words = []
  · rw [hnil]
    exact List.nil_prefix
  obtain ⟨-, front, back, hcs, hfront, hback⟩ := trims_trim (words ++ rest)
  have hnone : front = [] := by
    cases front with
    | nil => rfl
    | cons c front =>
      obtain ⟨d, ds, rfl⟩ := List.exists_cons_of_ne_nil hnil
      rw [List.cons_append, List.cons_append, List.cons_append, List.cons.injEq] at hcs
      have hblank := hfront c List.mem_cons_self
      rw [← hcs.1, h.head d rfl] at hblank
      cases hblank
  rw [hnone, List.nil_append] at hcs
  rcases List.append_eq_append_iff.1 hcs with ⟨tail, hcore, -⟩ | ⟨tail, hwords, hrest⟩
  · exact ⟨tail, hcore.symm⟩
  · -- what is cut off the words would be blanks at their end
    cases hlast : tail.getLast? with
    | none =>
      rw [List.getLast?_eq_none_iff.1 hlast, List.append_nil] at hwords
      exact hwords ▸ List.prefix_rfl
    | some c =>
      have hblank := hback c (hrest ▸ List.mem_append_left _ (List.mem_of_getLast? hlast))
      have hbare := h.last c (by rw [hwords, List.getLast?_append, hlast]; rfl)
      rw [hbare] at hblank
      cases hblank

/-- The words that stand behind the marker are the first words of the headline. -/
theorem prefix_headline {marker words text : String} (hmarker : IsClean marker)
    (hmarkerLine : '\n' ∉ marker.toList) (hwords : IsClean words)
    (hwordsLine : '\n' ∉ words.toList) (hbegins : words.toList <+: text.toList) (label : String) :
    words.toList <+: (headline marker label (marker ++ " " ++ text)).toList := by
  obtain ⟨rest, hrest⟩ := hbegins
  have hmarkerNil : marker.toList ≠ [] := hmarker.ne_empty ∘ String.toList_eq_nil_iff.1
  have hwordsNil : words.toList ≠ [] := hwords.ne_empty ∘ String.toList_eq_nil_iff.1
  have hprinted : (marker ++ " " ++ text).toList
      = marker.toList ++ ' ' :: words.toList ++ rest := by
    simp [← hrest]
  have hline : '\n' ∉ marker.toList ++ ' ' :: words.toList := by
    simp [hmarkerLine, hwordsLine]
  have hbare : IsBare (marker.toList ++ ' ' :: words.toList) := by
    constructor
    · intro c hc
      apply hmarker.bare.head
      rwa [List.head?_append, Option.or_of_isSome (by simp [hmarkerNil])] at hc
    · intro c hc
      apply hwords.bare.last
      rwa [List.append_cons, List.getLast?_append, Option.or_of_isSome (by simp [hwordsNil])] at hc
  obtain ⟨tail, htail⟩ := prefix_trim hbare (firstLine rest)
  have htrimmed : trim (firstLine (marker ++ " " ++ text).toList)
      = marker.toList ++ (' ' :: (words.toList ++ tail)) := by
    rw [hprinted, firstLine_append hline, ← htail]
    simp
  have htells : Tells marker.toList (marker ++ " " ++ text).toList
      (trim (words.toList ++ tail)) := by
    rw [tells_iff, htrimmed, unmarked_iff.1 (.marked _), trim_cons (by decide)]
  have hwords := prefix_trim hwords.bare tail
  have hmessage : trim (words.toList ++ tail) ≠ [] := by
    intro hnil
    rw [hnil, List.prefix_nil] at hwords
    exact hwordsNil hwords
  rw [headline_of_tells label htells, if_neg hmessage, String.toList_ofList]
  exact hwords

end Text

end CommandTelemetry
