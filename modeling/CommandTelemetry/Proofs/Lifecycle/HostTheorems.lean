import CommandTelemetry.Lifecycle.Host
import CommandTelemetry.Proofs.Dispatch.OutboxTheorems
import CommandTelemetry.Proofs.Lifecycle.EndingTheorems

/-!
# What a host asks of its dispatcher

The outbox of a host is the one that a dispatcher leaves behind which does what the calls of the
host ask for.

* `Session.ending?` is the ending that a call brings about, and `Host.reported?` the report that a
  call hands over;
* `Host.asked?` is what a call asks of the dispatcher, and `Host.outbox_after` ties the outbox of a
  host to what all its calls ask for;
* `Host.accounts_after` says which events were spawned by then.
-/

namespace CommandTelemetry

namespace Session

/-- The ending that a call brings about. -/
def ending? (session : Session) : HookCall → Option Ending
  | .success name => (session.context? name).map (.success · session.outbox.now)
  | .fail name error => (session.context? name).map fun context => .failure (.parsed context) error
  | .failUnparsed arguments error => some (.failure (.unparsed arguments) error)
  | .parse _ _ | .make _ _ _ _ | .start _ | .sleep _ => none

end Session

namespace Host

variable {lifecycle : Lifecycle} {session : Session} {call : HostCall}

/-- The report that a call hands over. -/
def reported? (lifecycle : Lifecycle) (session : Session) : HostCall → Option Report
  | .hook call => (session.ending? call).map lifecycle.report
  | .dispatch report => some report

/-- What a call asks of the dispatcher. -/
def asked? (lifecycle : Lifecycle) (session : Session) : HostCall → Option DispatchCall
  | .hook (.sleep length) => some (.sleep length)
  | call => (reported? lifecycle session call).map .dispatch

theorem asked?_of_not_sleep (h : ∀ length, call ≠ .hook (.sleep length)) :
    asked? lifecycle session call = (reported? lifecycle session call).map .dispatch := by
  unfold asked?
  split
  · next length => exact absurd rfl (h length)
  · rfl

/-- The outbox that a call leaves behind is that of a dispatcher which does what it is asked. -/
theorem outbox_step (command : Command) (lifecycle : Lifecycle) (session : Session)
    (call : HostCall) : (step command lifecycle session call).2.outbox
      = lifecycle.dispatcher.after session.outbox (asked? lifecycle session call).toList := by
  cases call with
  | dispatch report => rfl
  | hook call =>
    cases call with
    | parse name argv =>
      rw [step, Session.step]
      cases command.parse argv <;> rfl
    | make name words args flags =>
      rw [step, Session.step]
      cases lifecycle.tree.lookup words <;> rfl
    | start name =>
      rw [step, Session.step]
      cases session.context? name <;> rfl
    | sleep length => rfl
    | success name =>
      have hcall : ∀ length, HostCall.hook (.success name) ≠ .hook (.sleep length) :=
        fun _ h => by cases h
      rw [asked?_of_not_sleep hcall, step, Session.step, reported?, Session.ending?]
      cases session.context? name <;> rfl
    | fail name error =>
      have hcall : ∀ length, HostCall.hook (.fail name error) ≠ .hook (.sleep length) :=
        fun _ h => by cases h
      rw [asked?_of_not_sleep hcall, step, Session.step, reported?, Session.ending?]
      cases session.context? name <;> rfl
    | failUnparsed arguments error => rfl

/-- What a sequence of calls asks of the dispatcher. -/
def asked (command : Command) (lifecycle : Lifecycle) (session : Session) :
    List HostCall → List DispatchCall
  | [] => []
  | call :: calls => (asked? lifecycle session call).toList
      ++ asked command lifecycle (step command lifecycle session call).2 calls

/-- The reports that a sequence of calls hands over, in order. -/
def reports (command : Command) (lifecycle : Lifecycle) (session : Session) :
    List HostCall → List Report
  | [] => []
  | call :: calls => (reported? lifecycle session call).toList
      ++ reports command lifecycle (step command lifecycle session call).2 calls

theorem outbox_after (command : Command) (lifecycle : Lifecycle) (session : Session)
    (calls : List HostCall) : (after command lifecycle session calls).outbox
      = lifecycle.dispatcher.after session.outbox (asked command lifecycle session calls) := by
  induction calls generalizing session with
  | nil => rfl
  | cons call calls ih =>
    rw [asked, Dispatcher.after_append, ← outbox_step command lifecycle session call]
    exact ih _

theorem report?_asked? (lifecycle : Lifecycle) (session : Session) (call : HostCall) :
    (asked? lifecycle session call).toList.filterMap DispatchCall.report?
      = (reported? lifecycle session call).toList := by
  by_cases hsleep : ∃ length, call = .hook (.sleep length)
  · obtain ⟨length, rfl⟩ := hsleep
    rfl
  · rw [asked?_of_not_sleep (not_exists.1 hsleep)]
    cases reported? lifecycle session call <;> rfl

theorem report?_asked (command : Command) (lifecycle : Lifecycle) (session : Session)
    (calls : List HostCall) :
    (asked command lifecycle session calls).filterMap DispatchCall.report?
      = reports command lifecycle session calls := by
  induction calls generalizing session with
  | nil => rfl
  | cons call calls ih =>
    rw [asked, reports, List.filterMap_append, report?_asked?, ih]

theorem accounts_after (command : Command)
    (h : lifecycle.dispatcher.version ≠ Dispatcher.devVersion) (calls : List HostCall) :
    (after command lifecycle Session.start calls).outbox.Accounts
      ((reports command lifecycle Session.start calls).map
        fun report => Event.ofReport report lifecycle.dispatcher.version) := by
  rw [outbox_after, ← report?_asked]
  exact Dispatcher.accounts_after h Outbox.accounts_start _

/-- With time to wait nothing is left to be entered. -/
theorem queued_after (command : Command)
    (h : lifecycle.dispatcher.version ≠ Dispatcher.devVersion)
    (hceiling : 0 < lifecycle.dispatcher.ceiling) (calls : List HostCall) :
    (after command lifecycle Session.start calls).outbox.queued = [] := by
  rw [outbox_after]
  exact Dispatcher.queued_after h hceiling rfl _

theorem after_concat (command : Command) (lifecycle : Lifecycle) (session : Session)
    (calls : List HostCall) (call : HostCall) :
    after command lifecycle session (calls ++ [call])
      = (step command lifecycle (after command lifecycle session calls) call).2 :=
  List.foldl_append

end Host

end CommandTelemetry
