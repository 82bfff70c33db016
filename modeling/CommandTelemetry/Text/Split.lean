/-!
# Splitting texts

The pieces of a text between separating characters. There is always one more piece than there are
separators, and pieces may be empty.

* `splitWhere` splits at all characters that separate, `cutAt` at the first one of a kind, and
  `cutAtLast` at the last one.
-/

namespace CommandTelemetry.Text

/-- The pieces between the characters that separate. -/
def splitWhere (separates : Char → Bool) : List Char → List (List Char)
  | [] => [[]]
  | c :: cs =>
    if separates c then [] :: splitWhere separates cs
    else match splitWhere separates cs with
      | [] => [[c]]
      | piece :: pieces => (c :: piece) :: pieces

/-- The text up to a character, and the text after it if the character is there. -/
def cutAt (mark : Char) (cs : List Char) : List Char × Option (List Char) :=
  match cs.dropWhile (· ≠ mark) with
  | [] => (cs, none)
  | _ :: rest => (cs.takeWhile (· ≠ mark), some rest)

/-- The text before the last place of a character if it is there, and the text after it. -/
def cutAtLast (mark : Char) (cs : List Char) : Option (List Char) × List Char :=
  match cutAt mark cs.reverse with
  | (_, none) => (none, cs)
  | (after, some before) => (some before.reverse, after.reverse)

/-- There is always a piece. -/
theorem splitWhere_ne_nil (separates : Char → Bool) (cs : List Char) :
    splitWhere separates cs ≠ [] := by
  cases cs with
  | nil => simp [splitWhere]
  | cons c cs =>
    rw [splitWhere]
    split
    · simp
    · split <;> simp

end CommandTelemetry.Text
