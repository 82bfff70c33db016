import CommandTelemetry.Text.Decimal

/-!
# TOML values

A TOML document as a tree of tables. A table remembers how it came about, because that decides
whether later lines may still add to it.

* `Toml` is a value and `TomlTable` a table;
* `TomlTable.within` goes down a path of keys, making the tables that are not there yet;
* `Toml.isRepresentable` tells the values whose numbers fit the widest types that readers have.
-/

namespace CommandTelemetry

/-- How a table came about. -/
inductive TableOrigin where
  /-- It has a header of its own, or is the whole document. -/
  | declared
  /-- It stands on the way of a longer header. -/
  | implied
  /-- It stands on the way of a dotted key. -/
  | dotted
  /-- It was written as a value. -/
  | inline
deriving DecidableEq, Repr

/-- A number with a point or an exponent. -/
inductive TomlFloat where
  | finite (mantissa : Int) (exponent : Int)
  | infinite
  | notANumber
deriving DecidableEq, Repr

mutual

/-- A TOML value. -/
inductive Toml where
  | string (text : String)
  | integer (value : Int)
  | float (value : TomlFloat)
  | boolean (value : Bool)
  | dateTime (text : String)
  | array (items : List Toml)
  | table (table : TomlTable)
  /-- The tables that share a doubled header. -/
  | tables (items : List TomlTable)

/-- A TOML table: its values by key, in the order in which they were put. -/
inductive TomlTable where
  | mk (origin : TableOrigin) (entries : List (String × Toml))

end

namespace TomlTable

/-- How the table came about. -/
def origin : TomlTable → TableOrigin
  | mk origin _ => origin

/-- The values of the table by key. -/
def entries : TomlTable → List (String × Toml)
  | mk _ entries => entries

/-- A table without values. -/
def empty (origin : TableOrigin) : TomlTable := mk origin []

/-- The same values in a table that came about otherwise. -/
def withOrigin (table : TomlTable) (origin : TableOrigin) : TomlTable := mk origin table.entries

/-- The value of a key. -/
def get? (table : TomlTable) (key : String) : Option Toml :=
  (table.entries.find? (·.1 = key)).map (·.2)

/-- The table with a value for a key, in place of the one it had. -/
def put (table : TomlTable) (key : String) (value : Toml) : TomlTable :=
  if table.entries.any (·.1 = key) then
    mk table.origin (table.entries.map fun entry => if entry.1 = key then (key, value) else entry)
  else mk table.origin (table.entries ++ [(key, value)])

/-- The table with a value for a key that has none. -/
def add? (table : TomlTable) (key : String) (value : Toml) : Option TomlTable :=
  if (table.get? key).isSome then none else some (table.put key value)

/-- Edits the table at the end of a path. Tables that are missing on the way are made; a way through
an array of tables leads to the last of them. Nothing is ever added to a table written as a value,
nor with a dotted key to a table that has a header. -/
def within (dotted : Bool) (edit : TomlTable → Option TomlTable) :
    List String → TomlTable → Option TomlTable
  | [], table => edit table
  | key :: path, table => match table.get? key with
    | none => do
      let child ← within dotted edit path (empty (if dotted then .dotted else .implied))
      return table.put key (.table child)
    | some (.table child) =>
      if child.origin = .inline ∨ (dotted ∧ child.origin = .declared) then none
      else do
        let child ← within dotted edit path child
        return table.put key (.table child)
    | some (.tables items) => do
      let last ← items.getLast?
      let last ← within dotted edit path last
      return table.put key (.tables (items.dropLast ++ [last]))
    | some _ => none

/-- Gives a new key its value. The last table on the way of a dotted key is one made by dotted
keys. -/
def define (path : List String) (key : String) (value : Toml) (table : TomlTable) :
    Option TomlTable :=
  table.within true (fun parent =>
    if (path ≠ [] ∧ parent.origin ≠ .dotted) ∨ (path = [] ∧ parent.origin = .dotted) then none
    else parent.add? key value) path

/-- Opens the table of a header: a new one, or one that only stood on the way before. -/
def openTable (path : List String) (key : String) (table : TomlTable) : Option TomlTable :=
  table.within false (fun parent => match parent.get? key with
    | none => some (parent.put key (.table (empty .declared)))
    | some (.table child) =>
      if child.origin = .implied then some (parent.put key (.table (child.withOrigin .declared)))
      else none
    | some _ => none) path

/-- Opens one more table under a doubled header. -/
def openItem (path : List String) (key : String) (table : TomlTable) : Option TomlTable :=
  table.within false (fun parent => match parent.get? key with
    | none => some (parent.put key (.tables [empty .declared]))
    | some (.tables items) => some (parent.put key (.tables (items ++ [empty .declared])))
    | some _ => none) path

end TomlTable

namespace TomlFloat

/-- The number rounds to a finite number of double precision. -/
def isRepresentable : TomlFloat → Bool
  | .infinite | .notANumber => true
  | .finite mantissa exponent =>
    let size := mantissa.natAbs
    let limit := Nat.pow 2 1024 - Nat.pow 2 970
    if size = 0 then true
    else if exponent < 0 then
      (Text.digits size).length ≤ exponent.natAbs + 300 || size < limit * Nat.pow 10 exponent.natAbs
    else if 400 < exponent then false
    else size * Nat.pow 10 exponent.natAbs < limit

end TomlFloat

namespace Toml

mutual

/-- Every number in the value fits the widest type for it: 128 bits, or double precision. -/
def isRepresentable : Toml → Bool
  | .integer value => -2 ^ 127 ≤ value && value < 2 ^ 128
  | .float value => value.isRepresentable
  | .array items => areRepresentable items
  | .table content => isTableRepresentable content
  | .tables items => areTablesRepresentable items
  | .string _ | .boolean _ | .dateTime _ => true

/-- Every number in the values fits. -/
def areRepresentable : List Toml → Bool
  | [] => true
  | item :: items => isRepresentable item && areRepresentable items

/-- Every number in the table fits. -/
def isTableRepresentable : TomlTable → Bool
  | .mk _ entries => areEntriesRepresentable entries

/-- Every number under the keys fits. -/
def areEntriesRepresentable : List (String × Toml) → Bool
  | [] => true
  | (_, value) :: entries => isRepresentable value && areEntriesRepresentable entries

/-- Every number in the tables fits. -/
def areTablesRepresentable : List TomlTable → Bool
  | [] => true
  | item :: items => isTableRepresentable item && areTablesRepresentable items

end

end Toml

end CommandTelemetry
