/-!
# Decimal digits

Numbers as plain decimal text, without sign, padding or separators, and the way back.
-/

namespace CommandTelemetry.Text

/-- The character of a digit below ten. -/
def digitChar (d : Nat) : Char := Char.ofNat (0x30 + d)

/-- The number that an ASCII digit stands for. -/
def digitValue (c : Char) : Nat := c.toNat - 0x30

/-- The decimal digits of a number, without leading zeros. -/
def digits (n : Nat) : List Char :=
  if n < 10 then [digitChar n] else digits (n / 10) ++ [digitChar (n % 10)]
termination_by n
decreasing_by omega

/-- The number that a run of decimal digits spells. -/
def ofDigits (cs : List Char) : Nat := cs.foldl (fun n c => 10 * n + digitValue c) 0

/-- The decimal text of a number. -/
def decimal (n : Nat) : String := String.ofList (digits n)

private theorem digitValue_digitChar : ∀ d, d < 10 → digitValue (digitChar d) = d := by decide

/-- Digits are read back as the number they were written for. -/
theorem ofDigits_digits (n : Nat) : ofDigits (digits n) = n := by
  rw [digits]
  split
  · next h => simp [ofDigits, digitValue_digitChar n h]
  · next h =>
    have ih := ofDigits_digits (n / 10)
    simp only [ofDigits, List.foldl_append, List.foldl_cons, List.foldl_nil] at ih ⊢
    rw [ih, digitValue_digitChar (n % 10) (by omega)]
    omega
termination_by n
decreasing_by omega

private theorem isDigit_digitChar : ∀ d, d < 10 → (digitChar d).isDigit = true := by decide

theorem digits_ne_nil (n : Nat) : digits n ≠ [] := by
  rw [digits]
  split
  · exact List.cons_ne_nil _ _
  · exact List.append_ne_nil_of_right_ne_nil _ (List.cons_ne_nil _ _)

theorem isDigit_of_mem_digits {n : Nat} {c : Char} (h : c ∈ digits n) : c.isDigit = true := by
  fun_induction digits n with
  | case1 n hlt =>
    rw [List.mem_singleton.1 h]
    exact isDigit_digitChar n hlt
  | case2 n hge ih =>
    rcases List.mem_append.1 h with hfirst | hlast
    · exact ih hfirst
    · rw [List.mem_singleton.1 hlast]
      exact isDigit_digitChar (n % 10) (Nat.mod_lt n (by decide))

/-- The text of a number starts with a digit. -/
theorem head_digits (n : Nat) : ∃ c cs, digits n = c :: cs ∧ c.isDigit = true := by
  obtain ⟨c, cs, hcs⟩ := List.exists_cons_of_ne_nil (digits_ne_nil n)
  exact ⟨c, cs, hcs, isDigit_of_mem_digits (hcs ▸ List.mem_cons_self)⟩

/-- Only zero itself is written with a zero in front. -/
theorem length_digits_of_head?_eq_zero {n : Nat} (h : (digits n).head? = some '0') :
    (digits n).length = 1 := by
  have hpositive : ∀ n, 0 < n → (digits n).head? ≠ some '0' := by
    intro n hpos
    fun_induction digits n with
    | case1 n hlt =>
      have hall : ∀ d, d < 10 → 0 < d → digitChar d ≠ '0' := by decide
      simpa using hall n hlt hpos
    | case2 n hge ih =>
      rw [List.head?_append, Option.or_of_isSome (by simp [digits_ne_nil])]
      exact ih (by omega)
  rcases Nat.eq_zero_or_pos n with rfl | hpos
  · rw [digits]
    rfl
  · exact absurd h (hpositive n hpos)

end CommandTelemetry.Text
