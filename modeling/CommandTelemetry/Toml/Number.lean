import CommandTelemetry.Text.Hex
import CommandTelemetry.Toml.Value

/-!
# Numbers of TOML documents

Integers in four bases and numbers with a point or an exponent. An underscore may stand between two
digits, and a decimal number starts with no idle zero.
-/

namespace CommandTelemetry.Toml

/-- Reads on in a run of digits, over underscores that stand before a digit. -/
def moreDigits (isDigit : Char → Bool) : List Char → List Char × List Char
  | [] => ([], [])
  | '_' :: c :: cs =>
    if isDigit c then
      let (run, rest) := moreDigits isDigit cs
      (c :: run, rest)
    else ([], '_' :: c :: cs)
  | c :: cs =>
    if isDigit c then
      let (run, rest) := moreDigits isDigit cs
      (c :: run, rest)
    else ([], c :: cs)

/-- At least one digit, without the underscores between digits. -/
def readDigits (isDigit : Char → Bool) : List Char → Option (List Char × List Char)
  | [] => none
  | c :: cs =>
    if isDigit c then
      let (run, rest) := moreDigits isDigit cs
      some (c :: run, rest)
    else none

/-- The digits of a base up to sixteen. -/
def isDigitOf (base : Nat) (c : Char) : Bool := (Text.hexValue? c).any (· < base)

/-- The number that digits of a base spell. -/
def ofDigitsOf (base : Nat) (run : List Char) : Nat :=
  run.foldl (fun n c => base * n + (Text.hexValue? c).getD 0) 0

/-- An integer in a base other than ten, its mark already read. -/
def readBased (base : Nat) (cs : List Char) : Option (Toml × List Char) :=
  (readDigits (isDigitOf base) cs).map fun (run, rest) => (.integer (ofDigitsOf base run), rest)

/-- The digits before a point: a zero, or a run that starts with no zero. -/
def readWhole (cs : List Char) : Option (List Char × List Char) :=
  (readDigits Char.isDigit cs).filter fun (run, _) => run.length = 1 || run.head? ≠ some '0'

/-- The digits after a point, if there is one. -/
def readFraction : List Char → Option (Option (List Char) × List Char)
  | '.' :: cs => (readDigits Char.isDigit cs).map fun (run, rest) => (some run, rest)
  | cs => some (none, cs)

/-- A sign, if there is one: whether it is a minus. -/
def readSign : List Char → Option Bool × List Char
  | '+' :: cs => (some false, cs)
  | '-' :: cs => (some true, cs)
  | cs => (none, cs)

/-- A number with a sign. -/
def signed (negative : Option Bool) (n : Nat) : Int := if negative = some true then -n else n

/-- An exponent, if there is one. -/
def readExponent : List Char → Option (Option Int × List Char)
  | [] => some (none, [])
  | c :: cs =>
    if c = 'e' ∨ c = 'E' then
      let (sign, cs) := readSign cs
      (readDigits Char.isDigit cs).map fun (run, rest) =>
        (some (signed sign (ofDigitsOf 10 run)), rest)
    else some (none, c :: cs)

/-- A decimal number after its sign. -/
def readDecimal (sign : Option Bool) (cs : List Char) : Option (Toml × List Char) := do
  let (whole, cs) ← readWhole cs
  let (fraction, cs) ← readFraction cs
  let (exponent, rest) ← readExponent cs
  let digits := fraction.getD []
  if fraction.isNone && exponent.isNone then
    return (.integer (signed sign (ofDigitsOf 10 whole)), rest)
  else
    let mantissa := signed sign (ofDigitsOf 10 (whole ++ digits))
    return (.float (.finite mantissa (exponent.getD 0 - digits.length)), rest)

/-- A number of any kind. Only decimal ones may have a sign. -/
def readNumber (cs : List Char) : Option (Toml × List Char) :=
  let (sign, unsigned) := readSign cs
  match sign, unsigned with
  | none, '0' :: 'x' :: rest => readBased 16 rest
  | none, '0' :: 'o' :: rest => readBased 8 rest
  | none, '0' :: 'b' :: rest => readBased 2 rest
  | _, 'i' :: 'n' :: 'f' :: rest => some (.float .infinite, rest)
  | _, 'n' :: 'a' :: 'n' :: rest => some (.float .notANumber, rest)
  | sign, unsigned => readDecimal sign unsigned

end CommandTelemetry.Toml
