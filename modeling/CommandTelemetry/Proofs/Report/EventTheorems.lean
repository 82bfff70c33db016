import CommandTelemetry.Proofs.Json.ReaderTheorems
import CommandTelemetry.Proofs.Report.FlagsTheorems
import CommandTelemetry.Report.EventReader

/-!
# What is sent of an event

The text that is sent for an event holds all of it: whoever reads the text as JSON gets an object
that stands for this event and for no other.

* `Event.ofJson?_toJson` goes from the object back to the event, `Event.ofWire?_wire` from the text;
* `Event.wire_keeps_event` puts together what is true of the text and its object.
-/

namespace CommandTelemetry

namespace Json

theorem texts?_strings (texts : List String) :
    texts? (.array (texts.map .string)) = some texts := by
  show (texts.map Json.string).mapM text? = some texts
  induction texts with
  | nil => rfl
  | cons text rest ih => rw [List.map_cons, List.mapM_cons, ih]; rfl

theorem textMembers?_strings (pairs : List (String × String)) :
    textMembers? (.object (pairs.map fun pair => (pair.1, .string pair.2))) = some pairs := by
  show (pairs.map _).mapM _ = some pairs
  induction pairs with
  | nil => rfl
  | cons pair rest ih => rw [List.map_cons, List.mapM_cons, ih]; rfl

theorem nat?_ofNat (n : Nat) : (ofNat n).nat? = some n := rfl

end Json

namespace Event

/-- The object of an event stands for the event. -/
theorem ofJson?_toJson (event : Event) : ofJson? event.toJson = some event := by
  obtain ⟨command, args, flags, success, error, durationMs, version⟩ := event
  have hargs := Json.texts?_strings args
  have hflags := Json.textMembers?_strings flags.pairs
  -- a member that is left out and one that is sent are looked up differently
  cases error <;> cases durationMs <;>
    simp [ofJson?, toJson, members, optional, Json.member?, Json.text?, Json.bool?, Json.nat?_ofNat,
      hargs, hflags, Flags.ofPairs_pairs]

/-- The text of an event stands for the event. -/
theorem ofWire?_wire (event : Event) : ofWire? event.wire = some event := by
  rw [ofWire?, wire, Json.read?_compact, Option.bind_some, ofJson?_toJson]

theorem names_members (event : Event) :
    event.members.map (·.1) = ["command", "args", "flags", "success"]
      ++ (if event.error.isSome then ["error"] else [])
      ++ (if event.durationMs.isSome then ["duration_ms"] else []) ++ ["version"] := by
  obtain ⟨command, args, flags, success, error, durationMs, version⟩ := event
  cases error <;> cases durationMs <;> rfl

/-- What an event of a report says of its end: an error or a duration, never both. -/
theorem ofReport_ending (report : Report) (version : String) :
    (ofReport report version).error.isSome = !(ofReport report version).success
      ∧ (ofReport report version).durationMs.isSome = (ofReport report version).success
      ∧ (ofReport report version).durationMs = match report.outcome with
          | .succeeded duration => some (min (duration.nanos / 1000000) (Nat.pow 2 64 - 1))
          | .failedWith _ => none := by
  obtain ⟨command, args, flags, outcome⟩ := report
  cases outcome with
  | succeeded duration => exact ⟨rfl, rfl, rfl⟩
  | failedWith error => exact ⟨rfl, rfl, rfl⟩

/-- Nothing of an event is lost when it is sent: a reader of JSON gets an object with its members in
their order, and this object stands for the event. -/
theorem wire_keeps_event (event : Event) :
    (∃ members, Json.read? event.wire = some (.object members)
      ∧ ofJson? (.object members) = some event
      ∧ members.map (·.1) = ["command", "args", "flags", "success"]
          ++ (if event.error.isSome then ["error"] else [])
          ++ (if event.durationMs.isSome then ["duration_ms"] else []) ++ ["version"]
      ∧ ∃ flags, (Json.object members).member? "flags" = some (.object flags)
          ∧ (flags.map fun flag => Utf8.encode flag.1).Pairwise (· < ·))
    ∧ (∀ other : Event, other.wire = event.wire ↔ other = event)
    ∧ ∀ (report : Report) (version : String),
        (ofReport report version).error.isSome = !(ofReport report version).success
          ∧ (ofReport report version).durationMs.isSome = (ofReport report version).success
          ∧ (ofReport report version).durationMs = match report.outcome with
              | .succeeded duration => some (min (duration.nanos / 1000000) (Nat.pow 2 64 - 1))
              | .failedWith _ => none := by
  refine ⟨⟨event.members, Json.read?_compact event.toJson, ofJson?_toJson event,
    names_members event, _, rfl, ?_⟩, fun other => ⟨fun hsame => ?_, fun hsame => by rw [hsame]⟩,
    ofReport_ending⟩
  · -- the flags stand in the object as they stand in the event
    rw [List.map_map]
    have hsorted := event.flags.encode_names_sorted
    rw [Flags.names, List.map_map] at hsorted
    exact hsorted
  · have hread := ofWire?_wire other
    rw [hsame, ofWire?_wire] at hread
    exact (Option.some.inj hread).symm

end Event

end CommandTelemetry
