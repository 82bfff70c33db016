import CommandTelemetry.DomainName.Direction
import CommandTelemetry.DomainName.Label

/-!
# Domain names in ASCII

The one form of a domain name in which it is looked up: in small letters, each label in ASCII.

* `DomainName.toAscii?` is that form of a name, if it is one.
-/

namespace CommandTelemetry.DomainName

/-- The directions of the characters of a label. -/
def Label.directions (label : Label) : List Direction := label.characters.map Direction.of

/-- The labels can be shown in order: where any of them has letters from right to left, each keeps
to one direction. -/
def areInOrder (labels : List Label) : Bool :=
  !labels.any (·.directions.any Direction.isTurned)
    || labels.all fun label => Direction.keepsOne label.directions

/-- The labels of a name. -/
def labels? (cs : List Char) : Option (List Label) := do
  let text ← mapped? cs
  let labels ← (Text.splitWhere (· = '.') text).mapM Label.read?
  if areInOrder labels then return labels else none

/-- A name in ASCII. -/
def toAscii? (cs : List Char) : Option (List Char) :=
  (labels? cs).map fun labels => ['.'].intercalate (labels.map (·.written))

end CommandTelemetry.DomainName
