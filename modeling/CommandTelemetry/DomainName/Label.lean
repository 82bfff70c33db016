import CommandTelemetry.DomainName.Joiner
import CommandTelemetry.DomainName.AllowedCharacters
import CommandTelemetry.DomainName.Punycode
import CommandTelemetry.DomainName.Replacement
import CommandTelemetry.Text.Composition

/-!
# Labels of domain names

A label is one of the parts between the dots of a domain name. Before it is looked at, characters
that stand for others have been replaced and the text composed. A label with characters outside
ASCII is written in ASCII behind a marker, and may also be typed so.

* `DomainName.mapped?` replaces the characters of a text;
* `Label.read?` reads a label in either form.
-/

namespace CommandTelemetry.DomainName

/-! ## Characters -/

/-- What stands for a character: itself, another text, or nothing. None if no name may have it. -/
def mappedTo? (c : Char) : Option (List Char) :=
  match Replacement.of? c with
  | some text => some text
  | none =>
    if ignored.contains c then some []
    else if allowed.contains c then some [c]
    else none

/-- The text that stands for a text, composed. -/
def mapped? (cs : List Char) : Option (List Char) :=
  (cs.mapM mappedTo?).map fun texts => Text.composed texts.flatten

/-- The character stands for itself. -/
def isPlain (c : Char) : Bool := mappedTo? c = some [c]

/-! ## Labels -/

/-- A label: its characters, and how it is written in ASCII. -/
structure Label where
  characters : List Char
  written : List Char
deriving DecidableEq, Repr

namespace Label

/-- What stands before a label with characters outside ASCII. -/
def marker : List Char := ['x', 'n', '-', '-']

/-- How many characters a label may have if some are outside ASCII. -/
def longest : Nat := 1000

/-- How much may stand behind the marker. -/
def longestWritten : Nat := 2000

/-- The label does not begin with a mark, and its joiners can be seen. -/
def isReadable (characters : List Char) : Bool :=
  !characters.head?.any Text.isMark && Joiner.areSeen characters

/-- The label that stands behind a marker. It has to be the one way to write its characters, of
which one at least is outside ASCII. -/
def ofWritten? (code : List Char) : Option Label := do
  if code = [] ∨ code.getLast? = some '-' ∨ longestWritten < code.length then none
  else
    let characters ← Punycode.decode? code
    if characters.all isPlain && Text.composed characters = characters && isReadable characters then
      return ⟨characters, marker ++ code⟩
    else none

/-- The label of characters that stand for themselves. -/
def ofCharacters? (characters : List Char) : Option Label :=
  if characters.all (·.toNat < 0x80) then some ⟨characters, characters⟩
  else if isReadable characters ∧ characters.length ≤ longest then
    some ⟨characters, marker ++ Punycode.encode characters⟩
  else none

/-- A label in either form. -/
def read? (characters : List Char) : Option Label :=
  if marker.isPrefixOf characters then ofWritten? (characters.drop marker.length)
  else ofCharacters? characters

end Label

end CommandTelemetry.DomainName
