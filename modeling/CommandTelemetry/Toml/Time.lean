import CommandTelemetry.Text.Decimal

/-!
# Dates and times of TOML documents

A date, a time of day, or both, and with both a distance from universal time. The seconds may be
left out. Dates are those of the Gregorian calendar, and a minute may have a leap second.

* `readDateTime` takes the text of the longest such value off the front.
-/

namespace CommandTelemetry.Toml

/-- A number of exactly `count` digits within bounds. -/
def readNumeral (count low high : Nat) (cs : List Char) : Option (Nat × List Char) :=
  let run := cs.take count
  let n := Text.ofDigits run
  if run.length = count ∧ run.all Char.isDigit ∧ low ≤ n ∧ n ≤ high then some (n, cs.drop count)
  else none

/-- The text after one given character. -/
def readMark (mark : Char) : List Char → Option (List Char)
  | [] => none
  | c :: cs => if c = mark then some cs else none

/-- The year has a day more. -/
def isLeapYear (year : Nat) : Bool := year % 4 = 0 && (year % 100 ≠ 0 || year % 400 = 0)

/-- The number of days of a month. -/
def daysIn (year month : Nat) : Nat :=
  if month = 2 then (if isLeapYear year then 29 else 28)
  else if month = 4 ∨ month = 6 ∨ month = 9 ∨ month = 11 then 30
  else 31

/-- The text after a date. -/
def readDate (cs : List Char) : Option (List Char) := do
  let (year, cs) ← readNumeral 4 0 9999 cs
  let cs ← readMark '-' cs
  let (month, cs) ← readNumeral 2 1 12 cs
  let cs ← readMark '-' cs
  let (_, rest) ← readNumeral 2 1 (daysIn year month) cs
  return rest

/-- The text after the parts of a second. -/
def readSecondParts : List Char → Option (List Char)
  | '.' :: cs =>
    if (cs.takeWhile Char.isDigit) = [] then none else some (cs.dropWhile Char.isDigit)
  | cs => some cs

/-- The text after a time of day. -/
def readTime (cs : List Char) : Option (List Char) := do
  let (_, cs) ← readNumeral 2 0 23 cs
  let cs ← readMark ':' cs
  let (_, cs) ← readNumeral 2 0 59 cs
  match cs with
  | ':' :: cs => do
    let (_, cs) ← readNumeral 2 0 60 cs
    readSecondParts cs
  | cs => return cs

/-- The text after a distance from universal time. -/
def readOffset : List Char → Option (List Char)
  | [] => none
  | c :: cs =>
    if c = 'Z' ∨ c = 'z' then some cs
    else if c = '+' ∨ c = '-' then do
      let (_, cs) ← readNumeral 2 0 23 cs
      let cs ← readMark ':' cs
      let (_, cs) ← readNumeral 2 0 59 cs
      return cs
    else none

/-- The characters that may stand between a date and a time. -/
def isDateTimeMark (c : Char) : Bool := c = 'T' || c = 't' || c = ' '

/-- The text after a date and what belongs to it. -/
def readFromDate (cs : List Char) : Option (List Char) := do
  let afterDate ← readDate cs
  match afterDate with
  | [] => return []
  | mark :: cs =>
    let afterTime := if isDateTimeMark mark then readTime cs else none
    match afterTime with
    | none => return afterDate
    | some cs => return (readOffset cs).getD cs

/-- A date, a time, or both: its text. -/
def readDateTime (cs : List Char) : Option (String × List Char) :=
  ((readFromDate cs).or (readTime cs)).map fun rest =>
    (String.ofList (cs.take (cs.length - rest.length)), rest)

end CommandTelemetry.Toml
