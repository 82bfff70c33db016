import CommandTelemetry.Text.Split

/-!
# Punycode

Labels with characters outside ASCII, written in ASCII: first the ASCII characters, then, in the
order of their code points, how far each other character lies from the one before it. Distances are
written with letters and digits, the least significant first, and how many digits are expected
adapts to the distances seen so far.

* `Punycode.encode` writes a label, `Punycode.decode?` reads one back.
-/

namespace CommandTelemetry.Punycode

/-! ## Distances -/

/-- The digit of a number below thirty-six. -/
def digit (n : Nat) : Char := if n < 26 then Char.ofNat (0x61 + n) else Char.ofNat (0x30 + n - 26)

/-- The number of a digit. -/
def digitValue? (c : Char) : Option Nat :=
  if 'a' ≤ c ∧ c ≤ 'z' then some (c.toNat - 0x61)
  else if 'A' ≤ c ∧ c ≤ 'Z' then some (c.toNat - 0x41)
  else if '0' ≤ c ∧ c ≤ '9' then some (c.toNat - 0x30 + 26)
  else none

/-- How large a digit may be before another one follows, between one and twenty-six. -/
def threshold (place bias : Nat) : Nat := min 26 (max 1 (place - bias))

/-- The place of the first digit. Each further one lies as much higher. -/
def firstPlace : Nat := 36

/-- A distance in digits, of which at most `count` are written. -/
def writeDistance (bias : Nat) : Nat → Nat → Nat → List Char
  | 0, _, _ => []
  | count + 1, place, n =>
    let t := threshold place bias
    if n < t then [digit n]
    else
      digit (t + (n - t) % (36 - t))
        :: writeDistance bias count (place + firstPlace) ((n - t) / (36 - t))

/-- The distance that the digits at the front spell, added to `sum`, and the text after them. -/
def readDistance? (bias : Nat) : Nat → Nat → Nat → List Char → Option (Nat × List Char)
  | _, _, _, [] => none
  | place, weight, sum, c :: cs => match digitValue? c with
    | none => none
    | some n =>
      let t := threshold place bias
      if n < t then some (sum + n * weight, cs)
      else readDistance? bias (place + firstPlace) (weight * (36 - t)) (sum + n * weight) cs

/-- Reading a distance takes a digit at least. -/
theorem length_lt_of_readDistance? {bias place weight sum n : Nat} {cs rest : List Char}
    (h : readDistance? bias place weight sum cs = some (n, rest)) : rest.length < cs.length := by
  induction cs generalizing place weight sum with
  | nil => simp [readDistance?] at h
  | cons c cs ih =>
    rw [readDistance?] at h
    split at h
    · simp at h
    · dsimp only at h
      split at h
      · simp only [Option.some.injEq, Prod.mk.injEq] at h
        simp [← h.2]
      · exact Nat.lt_succ_of_lt (ih h)

/-- The bias that suits distances of this size. -/
def biasFor : Nat → Nat → Nat
  | 0, _ => 0
  | count + 1, size => if 455 < size then 36 + biasFor count (size / 35) else 36 * size / (size + 38)

/-- The bias before the first distance. -/
def firstBias : Nat := 72

/-- The bias after a distance, when `written` characters are written with it. -/
def adapted (distance written : Nat) (isFirst : Bool) : Nat :=
  let size := if isFirst then distance / 700 else distance / 2
  biasFor 32 (size + size / written)

/-- The first code point that is written as a distance. -/
def firstCode : Nat := 0x80

/-! ## Writing -/

/-- What is written so far, and the distance and bias for what comes next. -/
structure Progress where
  text : List Char
  written : Nat
  distance : Nat
  bias : Nat

/-- Passes one character of the label while those with code point `current` are written. -/
def pass (basic current : Nat) (progress : Progress) (c : Char) : Progress :=
  if c.toNat < current then { progress with distance := progress.distance + 1 }
  else if c.toNat = current then
    { text := progress.text ++ writeDistance progress.bias 32 firstPlace progress.distance
      written := progress.written + 1
      distance := 0
      bias := adapted progress.distance (progress.written + 1) (progress.written = basic) }
  else progress

/-- Writes the characters with the given code points, in increasing order from `next` on. -/
def writeAll (label : List Char) (basic : Nat) (next : Nat) : List Nat → Progress → List Char
  | [], progress => progress.text
  | current :: others, progress =>
    let moved := progress.distance + (current - next) * (progress.written + 1)
    let after := label.foldl (pass basic current) { progress with distance := moved }
    writeAll label basic (current + 1) others { after with distance := after.distance + 1 }

/-- A label in ASCII. -/
def encode (label : List Char) : List Char :=
  let basic := label.filter (·.toNat < firstCode)
  let others := ((label.map Char.toNat).filter (firstCode ≤ ·)).mergeSort.eraseDups
  let start : List Char := if basic = [] then [] else basic ++ ['-']
  writeAll label basic.length firstCode others ⟨start, basic.length, 0, firstBias⟩

/-! ## Reading -/

/-- Puts the characters that distances spell into a label with `basic` characters of ASCII. The last
one was put before the place `next` and has the code point `code`. -/
def readAll? (basic : Nat) (bias code next : Nat) (label : List Char) :
    List Char → Option (List Char)
  | [] => some label
  | c :: cs =>
    match h : readDistance? bias firstPlace 1 0 (c :: cs) with
    | none => none
    | some (distance, rest) =>
      let places := label.length + 1
      let code := code + (next + distance) / places
      let place := (next + distance) % places
      if code.isValidChar then
        readAll? basic (adapted distance places (label.length = basic)) code (place + 1)
          (label.insertIdx place (Char.ofNat code)) rest
      else none
termination_by cs => cs.length
decreasing_by exact length_lt_of_readDistance? h

/-- The label that a text in ASCII stands for. -/
def decode? (text : List Char) : Option (List Char) :=
  let (before, distances) := Text.cutAtLast '-' text
  let basic := before.getD []
  if basic.all (·.toNat < firstCode) then
    readAll? basic.length firstBias firstCode 0 basic distances
  else none

end CommandTelemetry.Punycode
