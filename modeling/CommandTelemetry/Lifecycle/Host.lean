import CommandTelemetry.Lifecycle.Session

/-!
# Hosts

A host that calls the hooks for its invocations and also dispatches reports of its own, both through
one dispatcher.

* `Host.step` is one call, `Host.after` what a sequence of calls leaves behind.
-/

namespace CommandTelemetry

/-- One call of a host. -/
inductive HostCall where
  | hook (call : HookCall)
  /-- A report is dispatched as it stands. -/
  | dispatch (report : Report)
deriving DecidableEq

/-- What a call answers. -/
inductive HostReply where
  | hook (reply : HookReply)
  | dispatched (outcome : DispatchOutcome)

namespace Host

/-- What a call answers, and the session after it. -/
def step (command : Command) (lifecycle : Lifecycle) (session : Session) :
    HostCall → HostReply × Session
  | .hook call =>
    let (reply, session) := session.step command lifecycle call
    (.hook reply, session)
  | .dispatch report =>
    let (outcome, outbox) := lifecycle.dispatcher.dispatch report session.outbox
    (.dispatched outcome, { session with outbox })

/-- The session after a sequence of calls. -/
def after (command : Command) (lifecycle : Lifecycle) (session : Session)
    (calls : List HostCall) : Session :=
  calls.foldl (fun session call => (step command lifecycle session call).2) session

end Host

end CommandTelemetry
