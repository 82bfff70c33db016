import CommandTelemetry.CommandLine.Matches

/-!
# Sharing global options

A global option that was typed at one level holds for every level below. Going down from the
outermost level, the value of the deeper level wins unless the one from above comes from a stronger
source; values are replaced and never merged.
-/

namespace CommandTelemetry

namespace Source

/-- What was typed is stronger than a default. -/
def isStrongerThan : Source → Source → Bool
  | .commandLine, .default => true
  | _, _ => false

end Source

namespace Globals

/-- The record of a level, or the one from above where that is stronger. -/
def prevailing (above : Option Match) (own : Match) : Match :=
  match above with
  | some record => if record.source.isStrongerThan own.source then record else own
  | none => own

/-- What is carried on below a level, for one global argument. -/
def carry (records carried : Matches) (id : String) : Matches :=
  match records.get? id with
  | none => carried
  | some own => carried.put (prevailing (carried.get? id) own)

/-- The levels with the records carried from above put into them. -/
def shareFrom (ids : List String) (carried : Matches) : List LevelRecord → List LevelRecord
  | [] => []
  | level :: below =>
    let carried := ids.foldl (carry level.records) carried
    { level with records := carried.foldl Matches.put level.records } :: shareFrom ids carried below

/-- A command line with its global options shared along its levels. -/
def share (parsed : Parsed) : Parsed :=
  let ids := parsed.levels.flatMap (·.globalIds)
  match shareFrom ids [] parsed.levels with
  | [] => parsed
  | top :: below => ⟨top, below⟩

end Globals

end CommandTelemetry
