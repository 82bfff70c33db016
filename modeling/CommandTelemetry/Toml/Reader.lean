import CommandTelemetry.Toml.Number
import CommandTelemetry.Toml.Text
import CommandTelemetry.Toml.Time

/-!
# Reading TOML documents

A document is read line by line into its outermost table: a header opens the table that the lines
after it belong to, and every other line gives a key its value.

* `Toml.readValue` reads a value, with a bound on how deeply values may hold each other;
* `Toml.read?` reads a whole document.
-/

namespace CommandTelemetry.Toml

/-! ## Keys -/

/-- The characters of keys without quotation marks. -/
def isBareKey (c : Char) : Bool := c.isAlphanum || c = '-' || c = '_'

/-- One key of a dotted key. -/
def readSimpleKey : List Char → Option (String × List Char)
  | [] => none
  | '"' :: cs => (readBasic (cs.length + 1) cs).map fun (text, rest) => (.ofList text, rest)
  | '\'' :: cs => (readLiteral cs).map fun (text, rest) => (.ofList text, rest)
  | cs =>
    let run := cs.takeWhile isBareKey
    if run = [] then none else some (.ofList run, cs.dropWhile isBareKey)

/-- A dotted key of at most `parts` keys: the keys before its last one, the last one, and the rest
after blanks. -/
def readParts : Nat → List Char → Option (List String × String × List Char)
  | 0, _ => none
  | parts + 1, cs => do
    let (key, cs) ← readSimpleKey (skipBlank cs)
    match skipBlank cs with
    | '.' :: cs => do
      let (path, last, rest) ← readParts parts cs
      return (key :: path, last, rest)
    | rest => return ([], key, rest)

/-- How many keys a dotted key may have. -/
def longestKey : Nat := 80

/-- A key: the keys before its last one, the last one, and the rest after blanks. -/
def readKey (cs : List Char) : Option (List String × String × List Char) := readParts longestKey cs

/-! ## Values -/

/-- The items of an array up to its closing bracket. -/
def readItems (item : List Char → Option (Toml × List Char)) :
    Nat → List Char → Option (List Toml × List Char)
  | 0, _ => none
  | fuel + 1, cs => match skipLayout false cs with
    | ']' :: rest => some ([], rest)
    | cs => do
      let (first, cs) ← item cs
      match skipLayout false cs with
      | ']' :: rest => return ([first], rest)
      | ',' :: cs => do
        let (items, rest) ← readItems item fuel cs
        return (first :: items, rest)
      | _ => none

/-- A key with its value, put to the entries before it. Lines may end on both sides of the equals
sign. -/
def readEntry (item : List Char → Option (Toml × List Char)) (entries : TomlTable)
    (cs : List Char) : Option (TomlTable × List Char) := do
  let (path, key, cs) ← readKey cs
  match skipLayout false cs with
  | '=' :: cs => do
    let (value, rest) ← item (skipLayout false cs)
    let entries ← entries.define path key value
    return (entries, rest)
  | _ => none

/-- The entries of a table written as a value, up to its closing brace. -/
def readEntries (item : List Char → Option (Toml × List Char)) :
    Nat → TomlTable → List Char → Option (TomlTable × List Char)
  | 0, _, _ => none
  | fuel + 1, entries, cs => match skipLayout false cs with
    | '\x7d' :: rest => some (entries, rest)
    | cs => do
      let (entries, cs) ← readEntry item entries cs
      match skipLayout false cs with
      | '\x7d' :: rest => return (entries, rest)
      | ',' :: cs => readEntries item fuel entries cs
      | _ => none

/-- The text after a word at its front. -/
def readWord (word cs : List Char) : Option (List Char) :=
  if word.isPrefixOf cs then some (cs.drop word.length) else none

/-- A value that holds no other value. -/
def readScalar (cs : List Char) : Option (Toml × List Char) :=
  match cs with
  | [] => none
  | '"' :: _ | '\'' :: _ => (readString cs).map fun (text, rest) => (.string text, rest)
  | 't' :: cs => (readWord "rue".toList cs).map (.boolean true, ·)
  | 'f' :: cs => (readWord "alse".toList cs).map (.boolean false, ·)
  | cs => match readDateTime cs with
    | some (text, rest) => some (.dateTime text, rest)
    | none => readNumber cs

/-- A value with at most `nesting` arrays and tables around its innermost parts. -/
def readValue : Nat → List Char → Option (Toml × List Char)
  | 0, cs => readScalar cs
  | nesting + 1, cs => match cs with
    | '[' :: cs =>
      (readItems (readValue nesting) (cs.length + 1) cs).map fun (items, rest) =>
        (.array items, rest)
    | '\x7b' :: cs =>
      (readEntries (readValue nesting) (cs.length + 1) (.empty .declared) cs).map
        fun (entries, rest) => (.table (entries.withOrigin .inline), rest)
    | cs => readScalar cs

/-- How deeply values may hold each other. -/
def deepestNesting : Nat := 80

/-! ## Documents -/

/-- A document that was read up to some line: its outermost table, and the way to the table that
the next lines belong to. -/
structure Document where
  root : TomlTable
  path : List String

namespace Document

/-- A document of which nothing was read. -/
def start : Document := ⟨.empty .declared, []⟩

/-- A line with a header, its first bracket already read. -/
def readHeader (document : Document) (cs : List Char) : Option (Document × List Char) :=
  match cs with
  | '[' :: cs => do
    let (path, key, cs) ← readKey cs
    match cs with
    | ']' :: ']' :: rest => do
      let root ← document.root.openItem path key
      return (⟨root, path ++ [key]⟩, rest)
    | _ => none
  | cs => do
    let (path, key, cs) ← readKey cs
    match cs with
    | ']' :: rest => do
      let root ← document.root.openTable path key
      return (⟨root, path ++ [key]⟩, rest)
    | _ => none

/-- A line that gives a key its value. -/
def readAssignment (document : Document) (cs : List Char) : Option (Document × List Char) := do
  let (path, key, cs) ← readKey cs
  match cs with
  | '=' :: cs => do
    let (value, rest) ← readValue deepestNesting (skipBlank cs)
    let root ← document.root.within false (·.define path key value) document.path
    return (⟨root, document.path⟩, rest)
  | _ => none

/-- A line of either kind. -/
def readLine (document : Document) : List Char → Option (Document × List Char)
  | '[' :: cs => document.readHeader cs
  | cs => document.readAssignment cs

/-- All lines that are left. -/
def readLines : Nat → Document → List Char → Option Document
  | 0, _, _ => none
  | fuel + 1, document, cs => match skipLayout false cs with
    | [] => some document
    | cs => match document.readLine cs with
      | none => none
      | some (document, rest) =>
        if atLineEnd rest then readLines fuel document rest else none

end Document

/-- The outermost table of a document. A byte order mark may stand before it. -/
def read? (text : String) : Option TomlTable :=
  let cs := match text.toList with
    | '\ufeff' :: cs => cs
    | cs => cs
  (Document.readLines (cs.length + 1) .start cs).map (·.root)

end CommandTelemetry.Toml
