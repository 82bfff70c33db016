/-!
# Blank text

The characters with the Unicode property White_Space, and the text left when they are taken off
both ends. Everything in the library that asks whether a text says anything uses this one class.

* `Text.isBlank` is the property on characters, `Text.saysNothing` on texts;
* `Text.trim` takes blanks off both ends; `trim_eq_nil_iff` ties the two together.
-/

namespace CommandTelemetry.Text

/-- The characters with the Unicode property White_Space. -/
def isBlank (c : Char) : Bool :=
  let n := c.toNat
  (0x09 ≤ n && n ≤ 0x0D) || n == 0x20 || n == 0x85 || n == 0xA0 || n == 0x1680
    || (0x2000 ≤ n && n ≤ 0x200A) || n == 0x2028 || n == 0x2029 || n == 0x202F || n == 0x205F
    || n == 0x3000

/-- Blanks taken off the front. -/
def trimFront (cs : List Char) : List Char := cs.dropWhile isBlank

/-- Blanks taken off both ends. -/
def trim (cs : List Char) : List Char := (trimFront (trimFront cs).reverse).reverse

/-- A text that is empty or holds blanks alone. -/
def saysNothing (s : String) : Bool := s.toList.all isBlank

private theorem trimFront_eq_nil_iff {cs : List Char} :
    trimFront cs = [] ↔ ∀ c ∈ cs, isBlank c = true := by
  induction cs with
  | nil => simp [trimFront]
  | cons c cs ih =>
    by_cases h : isBlank c = true
    · have hstep : trimFront (c :: cs) = trimFront cs := by
        rw [trimFront, List.dropWhile_cons_of_pos h, ← trimFront]
      rw [hstep, ih, List.forall_mem_cons]
      exact ⟨fun hcs => ⟨h, hcs⟩, fun hcs => hcs.2⟩
    · simp [trimFront, h]

/-- Nothing is left of a text exactly when all of it is blank. -/
theorem trim_eq_nil_iff {cs : List Char} : trim cs = [] ↔ ∀ c ∈ cs, isBlank c = true := by
  rw [trim, List.reverse_eq_nil_iff, trimFront_eq_nil_iff]
  simp only [List.mem_reverse]
  constructor
  · intro h c hc
    by_cases hd : c ∈ trimFront cs
    · exact h c hd
    · have hs : c ∈ cs.takeWhile isBlank ++ cs.dropWhile isBlank := by
        rw [List.takeWhile_append_dropWhile]; exact hc
      rcases List.mem_append.1 hs with ht | hd'
      · exact (List.all_eq_true.1 List.all_takeWhile) c ht
      · exact absurd hd' hd
  · intro h c hc
    exact h c ((List.dropWhile_sublist _).subset hc)

end CommandTelemetry.Text
