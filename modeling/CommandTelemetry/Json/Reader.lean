import CommandTelemetry.Json.Value

/-!
# Reading JSON text

The standard grammar: blanks between tokens, every string escape with surrogate pairs, numbers with
fraction and exponent, and one value in the whole text.

* `Json.readValue` reads a value off the front of a text, `Json.read?` a whole text.
-/

namespace CommandTelemetry.Json

/-- The characters that may stand between tokens. -/
def isSpace (c : Char) : Bool := c = ' ' || c = '\t' || c = '\n' || c = '\r'

/-- The text after its leading spaces. -/
def skipSpace (cs : List Char) : List Char := cs.dropWhile isSpace

/-- Four hexadecimal digits off the front. -/
def readHex4 : List Char → Option (Nat × List Char)
  | a :: b :: c :: d :: rest => (Text.ofHexDigits? 0 [a, b, c, d]).map (·, rest)
  | _ => none

/-- The character of an escape letter that stands for one character. -/
def escaped? (c : Char) : Option Char :=
  if c = '"' then some '"'
  else if c = '\\' then some '\\'
  else if c = '/' then some '/'
  else if c = 'b' then some '\x08'
  else if c = 'f' then some '\x0c'
  else if c = 'n' then some '\n'
  else if c = 'r' then some '\r'
  else if c = 't' then some '\t'
  else none

/-- The character that a `\u` escape spells, its letter already read: a unit outside the surrogates,
or a pair of surrogates. -/
def readUnit (cs : List Char) : Option (Char × List Char) := do
  let (high, rest) ← readHex4 cs
  if high < 0xD800 ∨ 0xE000 ≤ high then return (Char.ofNat high, rest)
  else if 0xDC00 ≤ high then none
  else match rest with
    | '\\' :: 'u' :: rest => do
      let (low, rest) ← readHex4 rest
      if 0xDC00 ≤ low ∧ low < 0xE000 then
        return (Char.ofNat (0x10000 + (high - 0xD800) * 0x400 + (low - 0xDC00)), rest)
      else none
    | _ => none

/-- The rest of a string, its opening quotation mark already read. -/
def readString : Nat → List Char → Option (List Char × List Char)
  | 0, _ => none
  | _ + 1, [] => none
  | _ + 1, '"' :: rest => some ([], rest)
  | fuel + 1, '\\' :: 'u' :: rest => do
    let (c, rest) ← readUnit rest
    let (text, rest) ← readString fuel rest
    return (c :: text, rest)
  | fuel + 1, '\\' :: letter :: rest => do
    let c ← escaped? letter
    let (text, rest) ← readString fuel rest
    return (c :: text, rest)
  | fuel + 1, c :: rest =>
    if c = '\\' ∨ c.toNat < 0x20 then none
    else do
      let (text, rest) ← readString fuel rest
      return (c :: text, rest)

/-- At least one digit off the front. -/
def readDigits (cs : List Char) : Option (List Char × List Char) :=
  let run := cs.takeWhile Char.isDigit
  if run = [] then none else some (run, cs.dropWhile Char.isDigit)

/-- The fraction of a number, if there is one. -/
def readFraction : List Char → Option (List Char × List Char)
  | '.' :: rest => readDigits rest
  | rest => some ([], rest)

/-- The exponent of a number, zero if there is none. -/
def readExponent : List Char → Option (Int × List Char)
  | c :: rest =>
    if c = 'e' ∨ c = 'E' then
      match rest with
      | '-' :: rest => (readDigits rest).map fun (run, rest) => (-(Text.ofDigits run : Int), rest)
      | '+' :: rest => (readDigits rest).map fun (run, rest) => ((Text.ofDigits run : Int), rest)
      | rest => (readDigits rest).map fun (run, rest) => ((Text.ofDigits run : Int), rest)
    else some (0, c :: rest)
  | [] => some (0, [])

/-- A number without its sign. -/
def readMagnitude (cs : List Char) : Option ((Nat × Int) × List Char) := do
  let (whole, rest) ← readDigits cs
  if whole.head? = some '0' ∧ whole.length ≠ 1 then none
  else
    let (fraction, rest) ← readFraction rest
    let (exponent, rest) ← readExponent rest
    return ((Text.ofDigits (whole ++ fraction), exponent - fraction.length), rest)

/-- A number. -/
def readNumber : List Char → Option (Json × List Char)
  | '-' :: rest => (readMagnitude rest).map fun ((m, e), rest) => (.number (-(m : Int)) e, rest)
  | rest => (readMagnitude rest).map fun ((m, e), rest) => (.number m e, rest)

/-- The text after a word that must stand at its front. -/
def expect (word : List Char) (cs : List Char) : Option (List Char) :=
  if word.isPrefixOf cs then some (cs.drop word.length) else none

mutual

/-- A value off the front of a text, which starts with no space. -/
def readValue : Nat → List Char → Option (Json × List Char)
  | 0, _ => none
  | _ + 1, [] => none
  | fuel + 1, c :: rest =>
    if c = '"' then do
      let (text, rest) ← readString fuel rest
      return (.string (String.ofList text), rest)
    else if c = '[' then
      match skipSpace rest with
      | ']' :: rest => some (.array [], rest)
      | rest => do
        let (items, rest) ← readItems fuel rest
        return (.array items, rest)
    else if c = '\x7b' then
      match skipSpace rest with
      | '\x7d' :: rest => some (.object [], rest)
      | rest => do
        let (members, rest) ← readMembers fuel rest
        return (.object members, rest)
    else if c = 'n' then (expect "ull".toList rest).map (.null, ·)
    else if c = 't' then (expect "rue".toList rest).map (.bool true, ·)
    else if c = 'f' then (expect "alse".toList rest).map (.bool false, ·)
    else readNumber (c :: rest)

/-- The items of an array up to its closing bracket, at least one. -/
def readItems : Nat → List Char → Option (List Json × List Char)
  | 0, _ => none
  | fuel + 1, cs => do
    let (item, rest) ← readValue fuel cs
    match skipSpace rest with
    | ']' :: rest => return ([item], rest)
    | ',' :: rest => do
      let (items, rest) ← readItems fuel (skipSpace rest)
      return (item :: items, rest)
    | _ => none

/-- The members of an object up to its closing brace, at least one. -/
def readMembers : Nat → List Char → Option (List (String × Json) × List Char)
  | 0, _ => none
  | fuel + 1, '"' :: cs => do
    let (name, rest) ← readString fuel cs
    match skipSpace rest with
    | ':' :: rest => do
      let (value, rest) ← readValue fuel (skipSpace rest)
      match skipSpace rest with
      | '\x7d' :: rest => return ([(String.ofList name, value)], rest)
      | ',' :: rest => do
        let (members, rest) ← readMembers fuel (skipSpace rest)
        return ((String.ofList name, value) :: members, rest)
      | _ => none
    | _ => none
  | _ + 1, _ => none

end

/-- The value that a whole text spells. -/
def read? (text : String) : Option Json := do
  let cs := text.toList
  let (value, rest) ← readValue (2 * cs.length + 2) (skipSpace cs)
  if skipSpace rest = [] then return value else none

end CommandTelemetry.Json
