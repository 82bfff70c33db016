import CommandTelemetry.Text.Decimal

/-!
# Hexadecimal digits

Digits below sixteen as characters, in lower and in upper case, and the number that either stands
for.
-/

namespace CommandTelemetry.Text

/-- The lower-case hexadecimal digit of a number below sixteen. -/
def hexDigit (n : Nat) : Char := if n < 10 then digitChar n else Char.ofNat (0x57 + n)

/-- The upper-case hexadecimal digit of a number below sixteen. -/
def upperHexDigit (n : Nat) : Char := if n < 10 then digitChar n else Char.ofNat (0x37 + n)

/-- The number that a hexadecimal digit stands for. -/
def hexValue? (c : Char) : Option Nat :=
  if '0' ≤ c ∧ c ≤ '9' then some (c.toNat - 0x30)
  else if 'a' ≤ c ∧ c ≤ 'f' then some (c.toNat - 0x57)
  else if 'A' ≤ c ∧ c ≤ 'F' then some (c.toNat - 0x37)
  else none

/-- The number that a run of hexadecimal digits spells, `number` having been read before it. -/
def ofHexDigits? (number : Nat) : List Char → Option Nat
  | [] => some number
  | c :: cs => (hexValue? c).bind fun digit => ofHexDigits? (16 * number + digit) cs

private theorem hexValue_hexDigit_of_lt : ∀ n, n < 16 → hexValue? (hexDigit n) = some n := by
  decide

private theorem hexValue_upperHexDigit_of_lt :
    ∀ n, n < 16 → hexValue? (upperHexDigit n) = some n := by
  decide

/-- A digit is read back in either case. -/
theorem hexValue_digits {n : Nat} (h : n < 16) :
    hexValue? (hexDigit n) = some n ∧ hexValue? (upperHexDigit n) = some n :=
  ⟨hexValue_hexDigit_of_lt n h, hexValue_upperHexDigit_of_lt n h⟩

end CommandTelemetry.Text
