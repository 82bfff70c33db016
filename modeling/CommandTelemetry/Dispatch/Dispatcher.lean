import CommandTelemetry.Dispatch.Outbox

/-!
# Dispatching reports

A dispatcher stamps a report with its version, spawns one send for it, and waits for that send at
most as long as its ceiling. A dispatcher of a development build does nothing.

* `Dispatcher.dispatch` is one dispatch: what the caller saw, and the outbox after it.
-/

namespace CommandTelemetry

/-- What the caller of a dispatch saw. None of these is an error for it. -/
inductive DispatchOutcome where
  /-- Nothing was spawned. -/
  | suppressed
  /-- The event was taken in time. -/
  | delivered
  /-- The send ended in time, without the event being taken. -/
  | failed
  /-- The ceiling was reached first; the send goes on. -/
  | timedOut
deriving DecidableEq, Repr

/-- Where reports go, and how long their callers wait. -/
structure Dispatcher where
  version : String
  /-- The longest wait, in milliseconds. -/
  ceiling : Nat
  transport : Transport

namespace Dispatcher

/-- The version of development builds. -/
def devVersion : String := "dev"

/-- The longest wait if nothing else is asked for, in milliseconds. -/
def defaultCeiling : Nat := 5000

/-- The dispatcher belongs to a development build. -/
def isSuppressed (dispatcher : Dispatcher) : Bool := dispatcher.version = devVersion

/-- What the caller sees of a send that ended in time. -/
def seen : SendResult → DispatchOutcome
  | .accepted => .delivered
  | .failed | .died => .failed

/-- What becomes of the send that is spawned next. -/
def nextAnswer (dispatcher : Dispatcher) (outbox : Outbox) (event : Event) : Answer :=
  dispatcher.transport.answer (outbox.attempts + outbox.queued.length) event

/-- The delay of a send that ends before the ceiling. -/
def timelyDelay? (dispatcher : Dispatcher) (answer : Answer) : Option Nat :=
  (answer.delay.map Timer.length).filter (· < Timer.length dispatcher.ceiling)

/-- Spawns one send for a report and waits for it up to the ceiling. With no time to wait the caller
leaves before the send is entered. -/
def dispatch (dispatcher : Dispatcher) (report : Report) (outbox : Outbox) :
    DispatchOutcome × Outbox :=
  if dispatcher.isSuppressed then (.suppressed, outbox)
  else
    let event := Event.ofReport report dispatcher.version
    let answer := dispatcher.nextAnswer outbox event
    let spawned := outbox.spawn event
    match dispatcher.timelyDelay? answer with
    | some delay => (seen answer.result, spawned.wait dispatcher.transport delay)
    | none => (.timedOut, spawned.sleep dispatcher.transport dispatcher.ceiling)

end Dispatcher

end CommandTelemetry
