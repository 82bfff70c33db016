import CommandTelemetry.Text.Split

/-!
# Paths

Paths as texts with slashes between names. A path that starts with a slash is absolute.

* `Path.join` puts a text behind a path, `Path.steps` are the names that count on the way;
* `Path.fileName?` is the name that a path ends in.
-/

namespace CommandTelemetry

/-- A path as it is written. -/
structure Path where
  text : String
deriving DecidableEq, Repr

namespace Path

/-- The texts between slashes. -/
def pieces (cs : List Char) : List (List Char) := Text.splitWhere (· = '/') cs

/-- The path starts at the root of the file system. -/
def isAbsolute (path : Path) : Bool := path.text.toList.head? = some '/'

/-- The names on the way, without empty ones and those that stay in place. -/
def steps (path : Path) : List String :=
  ((pieces path.text.toList).map String.ofList).filter fun name => name ≠ "" && name ≠ "."

/-- A text put behind a path, with one slash between them unless the path is empty or ends in one.
An absolute text takes the place of the path. -/
def join (path : Path) (rest : String) : Path :=
  if isAbsolute ⟨rest⟩ then ⟨rest⟩
  else if path.text = "" ∨ path.text.toList.getLast? = some '/' then ⟨path.text ++ rest⟩
  else ⟨path.text ++ "/" ++ rest⟩

/-- The name that the path ends in; a step up is no name. -/
def fileName? (path : Path) : Option String := path.steps.getLast?.filter (· ≠ "..")

end Path

end CommandTelemetry
