/-!
# UTF-8 bytes as text

Bytes that need not be UTF-8 come from the environment, from arguments and from files. They are
read in two ways: strictly, where one wrong byte refuses the whole, and with replacement, where
each broken beginning of a character becomes one U+FFFD.

* `Utf8.readChar` reads one character, or measures how far its valid beginning goes;
* `Utf8.decode?` is the strict reading, `Utf8.decodeLossy` the one with replacement.
-/

namespace CommandTelemetry

/-- A sequence of bytes. -/
abbrev Bytes := List UInt8

namespace Utf8

/-- The UTF-8 form of a text. -/
def encode (text : String) : Bytes := text.toUTF8.toList

/-- What a first byte promises: its payload, how many bytes follow, and the range of the second. -/
structure Lead where
  payload : Nat
  tail : Nat
  low : Nat
  high : Nat
deriving DecidableEq, Repr

/-- The promise of a first byte that is not ASCII, if a character can start with it. -/
def lead? (b : Nat) : Option Lead :=
  if 0xC2 ≤ b ∧ b ≤ 0xDF then some ⟨b - 0xC0, 1, 0x80, 0xBF⟩
  else if b = 0xE0 then some ⟨0, 2, 0xA0, 0xBF⟩
  else if b = 0xED then some ⟨0xD, 2, 0x80, 0x9F⟩
  else if 0xE1 ≤ b ∧ b ≤ 0xEF then some ⟨b - 0xE0, 2, 0x80, 0xBF⟩
  else if b = 0xF0 then some ⟨0, 3, 0x90, 0xBF⟩
  else if 0xF1 ≤ b ∧ b ≤ 0xF3 then some ⟨b - 0xF0, 3, 0x80, 0xBF⟩
  else if b = 0xF4 then some ⟨4, 3, 0x80, 0x8F⟩
  else none

/-- Reads `n` following bytes onto `acc`, the first of them within `low` and `high`: the number
spelled out if all are there, and how many fitted. -/
def readTail (acc low high : Nat) : Nat → Bytes → Option Nat × Nat
  | 0, _ => (some acc, 0)
  | _ + 1, [] => (none, 0)
  | n + 1, b :: rest =>
    if low ≤ b.toNat ∧ b.toNat ≤ high then
      let (number, used) := readTail (acc * 64 + (b.toNat - 0x80)) 0x80 0xBF n rest
      (number, used + 1)
    else (none, 0)

/-- Reads the character that starts with `first`: the character, if the bytes spell one, and how
many of the following bytes belong to it or to its valid beginning. -/
def readChar (first : UInt8) (rest : Bytes) : Option Char × Nat :=
  if first.toNat < 0x80 then (some (Char.ofNat first.toNat), 0)
  else match lead? first.toNat with
    | none => (none, 0)
    | some lead =>
      let (number, used) := readTail lead.payload lead.low lead.high lead.tail rest
      (number.map Char.ofNat, used)

/-- The characters that the bytes spell, with `none` for each broken beginning. -/
def readAll : Bytes → List (Option Char)
  | [] => []
  | first :: rest =>
    (readChar first rest).1 :: readAll (rest.drop (readChar first rest).2)
termination_by bytes => bytes.length
decreasing_by simp only [List.length_drop, List.length_cons]; omega

/-- The text that the bytes spell, if every byte belongs to a character. -/
def decode? (bytes : Bytes) : Option String :=
  ((readAll bytes).mapM id).map String.ofList

/-- The text that the bytes spell, with U+FFFD for each broken beginning. -/
def decodeLossy (bytes : Bytes) : String :=
  String.ofList ((readAll bytes).map (·.getD (Char.ofNat 0xFFFD)))

end Utf8

end CommandTelemetry
