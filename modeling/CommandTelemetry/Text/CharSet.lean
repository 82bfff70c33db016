import CommandTelemetry.Text.Hex
import CommandTelemetry.Text.Split

/-!
# Sets of characters

Sets of characters as ranges of code points. Large ones are written as words between blanks, each
word being one code point or the first and the last one of a range, in hexadecimal digits.

* `CharSet.contains` asks whether a character is in a set;
* `CharSet.ofText` reads the words of a set.
-/

namespace CommandTelemetry

/-- The code points from the first to the last. -/
structure CodeRange where
  first : Nat
  last : Nat
deriving DecidableEq, Repr

/-- A set of characters, in ranges. -/
structure CharSet where
  ranges : List CodeRange
deriving DecidableEq, Repr

namespace CodeRange

/-- The code point lies in the range. -/
def contains (range : CodeRange) (code : Nat) : Bool := range.first ≤ code && code ≤ range.last

end CodeRange

namespace CharSet

/-- The words of a table. -/
def words (text : String) : List (List Char) :=
  (Text.splitWhere Char.isWhitespace text.toList).filter (· ≠ [])

/-- The code point that hexadecimal digits spell. -/
def codePoint (word : List Char) : Nat := (Text.ofHexDigits? 0 word).getD 0

/-- The range that a word stands for. -/
def range (word : List Char) : CodeRange :=
  let (first, last) := Text.cutAt '-' word
  ⟨codePoint first, codePoint (last.getD first)⟩

/-- The set that words stand for. -/
def ofText (text : String) : CharSet := ⟨(words text).map range⟩

/-- The character is in the set. -/
def contains (set : CharSet) (c : Char) : Bool := set.ranges.any (·.contains c.toNat)

end CharSet

end CommandTelemetry
