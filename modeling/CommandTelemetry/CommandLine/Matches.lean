/-!
# Matches

What reading has recorded for the arguments of a level: the values, and where they come from.
Matches keep the order in which arguments were first recorded.
-/

namespace CommandTelemetry

/-- Where values come from. -/
inductive Source where
  | default
  | commandLine
deriving DecidableEq, Repr

/-- What is recorded for one argument. -/
structure Match where
  id : String
  source : Source
  values : List String
deriving DecidableEq, Repr

/-- The records of a level in order. -/
abbrev Matches := List Match

namespace Matches

/-- The record of an argument. -/
def get? (records : Matches) (id : String) : Option Match := records.find? (·.id = id)

/-- The records without that of an argument. -/
def drop (records : Matches) (id : String) : Matches := records.filter (·.id ≠ id)

/-- A record in the place that its argument has, or at the end. -/
def put (records : Matches) (record : Match) : Matches :=
  if records.any (·.id = record.id) then
    records.map fun old => if old.id = record.id then record else old
  else records ++ [record]

/-- The argument was typed. -/
def isTyped (records : Matches) (id : String) : Bool :=
  (records.get? id).any (·.source = .commandLine)

end Matches

/-- How one argument of a command line was used at a level. -/
inductive Use where
  /-- It started an occurrence of an option. -/
  | option (id : String)
  /-- It was taken as a value of a positional. -/
  | positional (id value : String)
deriving DecidableEq, Repr

/-- What was read at one level. -/
structure LevelRecord where
  /-- The name of the command, not the alias that was typed. -/
  command : String
  records : Matches
  /-- The ids of the global arguments of the level. -/
  globalIds : List String
  uses : List Use
deriving DecidableEq, Repr

/-- A command line that was read to its end: the outermost level and those below it. -/
structure Parsed where
  top : LevelRecord
  below : List LevelRecord
deriving DecidableEq, Repr

namespace Parsed

/-- All levels from the outermost one down. -/
def levels (parsed : Parsed) : List LevelRecord := parsed.top :: parsed.below

/-- The names of the subcommands that were chosen. -/
def chain (parsed : Parsed) : List String := parsed.below.map (·.command)

end Parsed

end CommandTelemetry
