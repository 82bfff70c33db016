import CommandTelemetry.Text.Hex

/-!
# The text of TOML documents

What stands between the values of a TOML document, and its four kinds of strings.

* `skipBlank` and `skipLayout` pass over blanks, over line ends and over comments;
* `readBasic`, `readLiteral` and their kinds over several lines read the rest of a string whose
  opening mark is read already.
-/

namespace CommandTelemetry.Toml

/-- Spaces and tabs. -/
def isBlank (c : Char) : Bool := c = ' ' || c = '\t'

/-- The characters that may stand in a comment or a string: all but control characters, of which
only the tab. -/
def isTextual (c : Char) : Bool := c = '\t' || (0x20 ≤ c.toNat && c.toNat ≠ 0x7F)

/-- The text after its leading blanks. -/
def skipBlank (cs : List Char) : List Char := cs.dropWhile isBlank

/-- The text after all blanks, line ends and comments at its front. It stops inside a comment at a
character that may not stand there. -/
def skipLayout (inComment : Bool) : List Char → List Char
  | [] => []
  | '\n' :: cs => skipLayout false cs
  | '\r' :: '\n' :: cs => skipLayout false cs
  | c :: cs =>
    if inComment then (if isTextual c then skipLayout true cs else c :: cs)
    else if isBlank c then skipLayout false cs
    else if c = '#' then skipLayout true cs
    else c :: cs

/-- The line ends here, blanks and a comment apart. -/
def atLineEnd (cs : List Char) : Bool :=
  match skipBlank cs with
  | [] | '\n' :: _ | '\r' :: '\n' :: _ | '#' :: _ => true
  | _ => false

/-! ## Escapes -/

/-- The character of a code point that is a Unicode scalar value. -/
def scalar? (n : Nat) : Option Char := if n.isValidChar then some (Char.ofNat n) else none

/-- The character that exactly `count` hexadecimal digits spell. -/
def readCodePoint (count : Nat) (cs : List Char) : Option (Char × List Char) :=
  if cs.length < count then none
  else ((Text.ofHexDigits? 0 (cs.take count)).bind scalar?).map (·, cs.drop count)

/-- The character of an escape, its backslash already read. -/
def readEscape : List Char → Option (Char × List Char)
  | '"' :: cs => some ('"', cs)
  | '\\' :: cs => some ('\\', cs)
  | 'b' :: cs => some ('\x08', cs)
  | 't' :: cs => some ('\t', cs)
  | 'n' :: cs => some ('\n', cs)
  | 'f' :: cs => some ('\x0c', cs)
  | 'r' :: cs => some ('\r', cs)
  | 'e' :: cs => some ('\x1b', cs)
  | 'x' :: cs => readCodePoint 2 cs
  | 'u' :: cs => readCodePoint 4 cs
  | 'U' :: cs => readCodePoint 8 cs
  | _ => none

/-! ## Strings on one line -/

/-- The rest of a literal string. -/
def readLiteral : List Char → Option (List Char × List Char)
  | [] => none
  | '\'' :: cs => some ([], cs)
  | c :: cs =>
    if isTextual c then (readLiteral cs).map fun (text, rest) => (c :: text, rest) else none

/-- The rest of a basic string. -/
def readBasic : Nat → List Char → Option (List Char × List Char)
  | 0, _ => none
  | _ + 1, [] => none
  | _ + 1, '"' :: cs => some ([], cs)
  | fuel + 1, '\\' :: cs => do
    let (c, cs) ← readEscape cs
    let (text, rest) ← readBasic fuel cs
    return (c :: text, rest)
  | fuel + 1, c :: cs =>
    if isTextual c then (readBasic fuel cs).map fun (text, rest) => (c :: text, rest) else none

/-! ## Strings over several lines -/

/-- The text without a line end at its front. -/
def dropLineEnd : List Char → List Char
  | '\n' :: cs => cs
  | '\r' :: '\n' :: cs => cs
  | cs => cs

/-- Three marks close a string; one or two more before them belong to it. -/
def readClosing (mark : Char) (cs : List Char) : Option (List Char × List Char) :=
  let marks := cs.takeWhile (· = mark)
  if marks.length < 3 then none
  else
    let kept := min (marks.length - 3) 2
    some (marks.take kept, cs.drop (kept + 3))

/-- The rest of a literal string over several lines. -/
def readLiteralLines : List Char → Option (List Char × List Char)
  | [] => none
  | '\r' :: '\n' :: cs => (readLiteralLines cs).map fun (text, rest) => ('\r' :: '\n' :: text, rest)
  | c :: cs =>
    if c = '\'' ∧ (readClosing '\'' (c :: cs)).isSome then readClosing '\'' (c :: cs)
    else if c = '\n' || isTextual c then
      (readLiteralLines cs).map fun (text, rest) => (c :: text, rest)
    else none

/-- The text after a line that ends in a backslash, that is after all blanks and line ends that
follow, of which at least one ends the line. -/
def joinLines (cs : List Char) : Option (List Char) :=
  match skipBlank cs with
  | '\n' :: cs => some (skipEmpty cs)
  | '\r' :: '\n' :: cs => some (skipEmpty cs)
  | _ => none
where
  /-- The text after blanks and line ends. -/
  skipEmpty : List Char → List Char
    | '\n' :: cs => skipEmpty cs
    | '\r' :: '\n' :: cs => skipEmpty cs
    | c :: cs => if isBlank c then skipEmpty cs else c :: cs
    | [] => []

/-- The rest of a basic string over several lines. -/
def readBasicLines : Nat → List Char → Option (List Char × List Char)
  | 0, _ => none
  | _ + 1, [] => none
  | fuel + 1, '\\' :: cs => match joinLines cs with
    | some cs => readBasicLines fuel cs
    | none => do
      let (c, cs) ← readEscape cs
      let (text, rest) ← readBasicLines fuel cs
      return (c :: text, rest)
  | fuel + 1, '\r' :: '\n' :: cs =>
    (readBasicLines fuel cs).map fun (text, rest) => ('\r' :: '\n' :: text, rest)
  | fuel + 1, c :: cs =>
    if c = '"' ∧ (readClosing '"' (c :: cs)).isSome then readClosing '"' (c :: cs)
    else if c = '\n' || isTextual c then
      (readBasicLines fuel cs).map fun (text, rest) => (c :: text, rest)
    else none

/-- A string of any kind. -/
def readString : List Char → Option (String × List Char)
  | '"' :: '"' :: '"' :: cs =>
    (readBasicLines (cs.length + 1) (dropLineEnd cs)).map fun (text, rest) => (.ofList text, rest)
  | '\'' :: '\'' :: '\'' :: cs =>
    (readLiteralLines (dropLineEnd cs)).map fun (text, rest) => (.ofList text, rest)
  | '"' :: cs => (readBasic (cs.length + 1) cs).map fun (text, rest) => (.ofList text, rest)
  | '\'' :: cs => (readLiteral cs).map fun (text, rest) => (.ofList text, rest)
  | _ => none

end CommandTelemetry.Toml
