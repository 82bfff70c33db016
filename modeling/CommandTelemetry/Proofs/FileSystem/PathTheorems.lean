import CommandTelemetry.FileSystem.Path

/-!
# What stands behind a path

A relative text put behind a path continues the way: its names follow those of the path, whether the
path is empty, ends in a slash or neither. An absolute text takes the path's place.

* `Path.steps_join_of_relative` and `Path.isAbsolute_join_of_relative` say what becomes of a path
  behind which a relative text is put;
* `Path.IsName` is a name that stands for something in a directory, and `Path.steps_join` and
  `Path.isAbsolute_join` are the case of a name.
-/

namespace CommandTelemetry

namespace Text

variable {separates : Char → Bool}

/-- The pieces before a separator are followed by those behind it. -/
theorem splitWhere_append_cons {c : Char} (h : separates c = true) (front back : List Char) :
    splitWhere separates (front ++ c :: back)
      = splitWhere separates front ++ splitWhere separates back := by
  induction front with
  | nil =>
    show splitWhere separates (c :: back) = [] :: splitWhere separates back
    rw [splitWhere, if_pos h]
  | cons d front ih =>
    rw [List.cons_append, splitWhere, splitWhere, ih]
    split
    · rfl
    · cases hfront : splitWhere separates front with
      | nil => exact absurd hfront (splitWhere_ne_nil separates front)
      | cons piece pieces => rfl

/-- A text without separators is one piece. -/
theorem splitWhere_of_no_separator {cs : List Char} (h : ∀ c ∈ cs, separates c = false) :
    splitWhere separates cs = [cs] := by
  induction cs with
  | nil => rfl
  | cons c cs ih =>
    rw [List.forall_mem_cons] at h
    rw [splitWhere, h.1, if_neg Bool.false_ne_true, ih h.2]

end Text

namespace Path

/-! ## Texts behind a path -/

variable {rest : String}

theorem join_of_absolute (path : Path) (h : isAbsolute ⟨rest⟩ = true) :
    path.join rest = ⟨rest⟩ := by
  rw [join, if_pos h]

theorem join_of_relative (path : Path) (h : isAbsolute ⟨rest⟩ = false) : path.join rest
    = if path.text = "" ∨ path.text.toList.getLast? = some '/' then ⟨path.text ++ rest⟩
      else ⟨path.text ++ "/" ++ rest⟩ := by
  rw [join, h, if_neg Bool.false_ne_true]

theorem pieces_append_slash (front back : List Char) :
    pieces (front ++ '/' :: back) = pieces front ++ pieces back :=
  Text.splitWhere_append_cons (by decide) front back

/-- With a slash between two texts, the names of the one are followed by those of the other. -/
theorem steps_of_slash {front back text : String}
    (h : text.toList = front.toList ++ '/' :: back.toList) :
    steps ⟨text⟩ = steps ⟨front⟩ ++ steps ⟨back⟩ := by
  simp only [steps, h, pieces_append_slash, List.map_append, List.filter_append]

/-- The names of a relative text behind a path follow those of the path. -/
theorem steps_join_of_relative (path : Path) (h : isAbsolute ⟨rest⟩ = false) :
    (path.join rest).steps = path.steps ++ steps ⟨rest⟩ := by
  rw [join_of_relative path h]
  split
  · next hclosed =>
    rcases hclosed with hempty | hslash
    · have hpath : path.steps = [] := by rw [steps, hempty]; rfl
      rw [hempty, String.empty_append, hpath, List.nil_append]
    · -- behind the slash at the end there is nothing yet
      obtain ⟨front, hfront⟩ := List.getLast?_eq_some_iff.1 hslash
      have hpath : path.steps = steps ⟨String.ofList front⟩ ++ steps ⟨""⟩ := by
        apply steps_of_slash
        rw [hfront, String.toList_ofList]
        rfl
      have hjoined : steps ⟨path.text ++ rest⟩
          = steps ⟨String.ofList front⟩ ++ steps ⟨rest⟩ := by
        apply steps_of_slash
        simp [hfront]
      rw [hpath, hjoined, List.append_assoc]
      rfl
  · apply steps_of_slash
    simp

/-- A relative text behind a path leaves it relative or absolute. -/
theorem isAbsolute_join_of_relative (path : Path) (h : isAbsolute ⟨rest⟩ = false) :
    (path.join rest).isAbsolute = path.isAbsolute := by
  rw [join_of_relative path h]
  unfold Path.isAbsolute at h ⊢
  by_cases hempty : path.text = ""
  · rw [if_pos (.inl hempty), hempty, String.empty_append, h]
    rfl
  · obtain ⟨c, cs, hcs⟩ := List.exists_cons_of_ne_nil fun hnil =>
      hempty (String.toList_eq_nil_iff.1 hnil)
    split <;> simp [hcs]

/-! ## Names behind a path -/

/-- A name that stands for something in a directory, and neither stays in place nor steps up. -/
structure IsName (name : String) : Prop where
  ne_empty : name ≠ ""
  ne_here : name ≠ "."
  ne_up : name ≠ ".."
  no_slash : '/' ∉ name.toList

variable {name : String}

theorem IsName.isAbsolute (h : IsName name) : isAbsolute ⟨name⟩ = false := by
  rw [Path.isAbsolute, decide_eq_false_iff_not]
  intro hhead
  exact h.no_slash (List.mem_of_mem_head? hhead)

theorem IsName.steps (h : IsName name) : steps ⟨name⟩ = [name] := by
  have hpieces : pieces name.toList = [name.toList] := by
    refine Text.splitWhere_of_no_separator fun c hc => ?_
    rw [decide_eq_false_iff_not]
    rintro rfl
    exact h.no_slash hc
  rw [Path.steps, hpieces]
  simp [h.ne_empty, h.ne_here]

/-- A name behind a path is the last name on the way. -/
theorem steps_join (path : Path) (h : IsName name) :
    (path.join name).steps = path.steps ++ [name] := by
  rw [steps_join_of_relative path h.isAbsolute, h.steps]

/-- A name behind a path leaves it relative or absolute. -/
theorem isAbsolute_join (path : Path) (h : IsName name) :
    (path.join name).isAbsolute = path.isAbsolute :=
  isAbsolute_join_of_relative path h.isAbsolute

end Path

end CommandTelemetry
