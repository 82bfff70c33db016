import CommandTelemetry.Text.Blank

/-!
# Headlines

The one line of a printed message that is passed on: its first line, without the word that marks it
as a message and without blanks around it.
-/

namespace CommandTelemetry.Text

/-- The first line, without its line feed. -/
def firstLine (cs : List Char) : List Char := cs.takeWhile (· ≠ '\n')

/-- A text without these characters at its front, or unchanged if it starts otherwise. -/
def without (front cs : List Char) : List Char :=
  if front.isPrefixOf cs then cs.drop front.length else cs

/-- The first line of a printed message, trimmed and without its marker; `label` stands in when
nothing is left. -/
def headline (marker label printed : String) : String :=
  let message := trim (without marker.toList (trim (firstLine printed.toList)))
  if message = [] then label else String.ofList message

end CommandTelemetry.Text
