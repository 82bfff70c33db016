import CommandTelemetry.Lifecycle.Hooks
import CommandTelemetry.Proofs.Text.HeadlineTheorems

/-!
# Endings and their events

What the event of an invocation tells of the way in which the invocation ended.

* `Ending` is a way in which an invocation ends, and `Lifecycle.event` the event of it;
* `Event.Tells` says what an event makes of an error text, and `Event.Describes` what it says of an
  ending;
* `Lifecycle.describes_event` holds of every ending.
-/

namespace CommandTelemetry

/-- A way in which an invocation ends. -/
inductive Ending where
  /-- It ends well at this time. -/
  | success (context : Context) (time : Nat)
  | failure (invocation : FailedInvocation) (error : String)
deriving DecidableEq

namespace Ending

/-- The command of the invocation, or the one that was meant by arguments that could not be read. -/
def node (tree : CommandTree) : Ending → NodeId
  | .success context _ => context.node
  | .failure (.parsed context) _ => context.node
  | .failure (.unparsed arguments) _ => tree.find arguments

/-- The arguments of the invocation. -/
def args : Ending → List String
  | .success context _ => context.args
  | .failure (.parsed context) _ => context.args
  | .failure (.unparsed arguments) _ => arguments

/-- The flags of the invocation, none for arguments that could not be read. -/
def flags : Ending → Flags
  | .success context _ => context.flags
  | .failure (.parsed context) _ => context.flags
  | .failure (.unparsed _) _ => Flags.empty

end Ending

namespace Lifecycle

/-- The report of an ending. -/
def report (lifecycle : Lifecycle) : Ending → Report
  | .success context time => lifecycle.successReport context time
  | .failure invocation error => lifecycle.failureReport invocation error

/-- The event of an ending. -/
def event (lifecycle : Lifecycle) (ending : Ending) : Event :=
  Event.ofReport (lifecycle.report ending) lifecycle.dispatcher.version

end Lifecycle

namespace Event

/-- What an event says of the error of a failure: the given text, or if that is blank that the error
is unknown. -/
structure Tells (event : Event) (message text : String) : Prop where
  error : event.error = some text
  visible : ∃ c ∈ text.toList, Text.isBlank c = false
  blank : (∀ c ∈ message.toList, Text.isBlank c = true) → text = "unknown error"
  given : (∃ c ∈ message.toList, Text.isBlank c = false) → text = message

/-- An event says this of an ending. -/
structure Describes (event : Event) (lifecycle : Lifecycle) (ending : Ending) : Prop where
  version : event.version = lifecycle.dispatcher.version
  command : event.command = lifecycle.tree.path (ending.node lifecycle.tree)
  args : event.args
    = ending.args.filter fun arg => arg ≠ "--help" ∧ arg ≠ "-h" ∧ arg ≠ "help"
  flags : event.flags = ending.flags
  result : match ending with
    | .success context time => event.success = true ∧ event.error = none
        ∧ event.durationMs = some (Duration.ofMillis (context.elapsed time)).millis
    | .failure _ error => event.success = false ∧ event.durationMs = none
        ∧ ∃ text, event.Tells error text

end Event

theorem Invocation.withoutHelpWords_eq (args : List String) :
    withoutHelpWords args = args.filter fun arg => arg ≠ "--help" ∧ arg ≠ "-h" ∧ arg ≠ "help" := by
  apply List.filter_congr
  intro arg _
  simp [helpWords]

/-- A failure keeps the text that it is given, unless that is blank. -/
theorem Outcome.failed_of_blank {error : String} (h : Text.saysNothing error = true) :
    Outcome.failed error = .failedWith "unknown error" := by
  rw [failed, if_pos h, unknownError]

theorem Outcome.failed_of_visible {error : String} (h : Text.saysNothing error = false) :
    Outcome.failed error = .failedWith error := by
  rw [failed, h, if_neg Bool.false_ne_true]

theorem Event.ofReport_of_failedWith {report : Report} {text : String}
    (h : report.outcome = .failedWith text) (version : String) :
    (ofReport report version).success = false ∧ (ofReport report version).durationMs = none
      ∧ (ofReport report version).error = some text := by
  unfold ofReport
  rw [h]
  exact ⟨rfl, rfl, rfl⟩

/-- An event tells the text with which a failure was reported. -/
theorem Event.exists_tells {report : Report} {message : String}
    (h : report.outcome = Outcome.failed message) (version : String) :
    ∃ text, (ofReport report version).Tells message text := by
  cases hblank : Text.saysNothing message with
  | true =>
    rw [Outcome.failed_of_blank hblank] at h
    obtain ⟨-, -, herror⟩ := ofReport_of_failedWith h version
    refine ⟨"unknown error", herror, Text.saysNothing_eq_false_iff.1 (by decide), fun _ => rfl, ?_⟩
    intro hvisible
    rw [Text.saysNothing_eq_false_iff.2 hvisible] at hblank
    cases hblank
  | false =>
    rw [Outcome.failed_of_visible hblank] at h
    obtain ⟨-, -, herror⟩ := ofReport_of_failedWith h version
    refine ⟨message, herror, Text.saysNothing_eq_false_iff.1 hblank, ?_, fun _ => rfl⟩
    intro hall
    rw [Text.saysNothing, List.all_eq_true.2 hall] at hblank
    cases hblank

/-- The event of an ending describes it. -/
theorem Lifecycle.describes_event (lifecycle : Lifecycle) (ending : Ending) :
    (lifecycle.event ending).Describes lifecycle ending := by
  cases ending with
  | success context time =>
    exact ⟨rfl, rfl, Invocation.withoutHelpWords_eq _, rfl, rfl, rfl, rfl⟩
  | failure invocation error =>
    have houtcome : (lifecycle.failureReport invocation error).outcome = Outcome.failed error := by
      cases invocation <;> rfl
    obtain ⟨hsuccess, hduration, -⟩ :=
      Event.ofReport_of_failedWith houtcome lifecycle.dispatcher.version
    have htells := Event.exists_tells houtcome lifecycle.dispatcher.version
    cases invocation with
    | parsed context =>
      exact ⟨rfl, rfl, Invocation.withoutHelpWords_eq _, rfl, hsuccess, hduration, htells⟩
    | unparsed arguments =>
      exact ⟨rfl, rfl, Invocation.withoutHelpWords_eq _, rfl, hsuccess, hduration, htells⟩

end CommandTelemetry
