import CommandTelemetry.Dispatch.Dispatcher

/-!
# Histories of a dispatcher

A caller that dispatches reports and sleeps in between, in any order.

* `Dispatcher.step` is one call, `Dispatcher.run` a sequence of calls with what each one answered.
-/

namespace CommandTelemetry

/-- One call of a dispatcher's caller. -/
inductive DispatchCall where
  | dispatch (report : Report)
  /-- Time passes, in milliseconds. -/
  | sleep (length : Nat)
deriving DecidableEq

/-- What a call answered, and the outbox after it. -/
structure DispatchStep where
  /-- What the caller of a dispatch saw; a sleep shows nothing. -/
  outcome : Option DispatchOutcome
  outbox : Outbox
deriving DecidableEq

namespace Dispatcher

/-- What a call answers. -/
def step (dispatcher : Dispatcher) (outbox : Outbox) : DispatchCall → DispatchStep
  | .dispatch report =>
    let (outcome, outbox) := dispatcher.dispatch report outbox
    ⟨some outcome, outbox⟩
  | .sleep length => ⟨none, outbox.sleep dispatcher.transport length⟩

/-- What a sequence of calls answers. -/
def run (dispatcher : Dispatcher) (outbox : Outbox) : List DispatchCall → List DispatchStep
  | [] => []
  | call :: calls =>
    let answer := dispatcher.step outbox call
    answer :: dispatcher.run answer.outbox calls

/-- The outbox after a sequence of calls. -/
def after (dispatcher : Dispatcher) (outbox : Outbox) (calls : List DispatchCall) : Outbox :=
  calls.foldl (fun outbox call => (dispatcher.step outbox call).outbox) outbox

end Dispatcher

end CommandTelemetry
