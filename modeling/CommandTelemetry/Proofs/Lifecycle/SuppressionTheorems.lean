import CommandTelemetry.Command.Sample
import CommandTelemetry.Proofs.Dispatch.OutboxSameTheorems
import CommandTelemetry.Proofs.Lifecycle.HostTheorems

/-!
# Development builds send nothing

A dispatcher of a development build spawns no send, whichever way a report comes to it, and every
other dispatcher spawns one for each report.

* `Outbox.Idle` is what a development build keeps, whatever is asked of it;
* `Host.Shows` says which calls show what became of their reports, and `Host.outcome?_step` what
  they show;
* `Host.inert_exactly_in_dev` is the law for every call after every history.
-/

namespace CommandTelemetry

namespace Outbox

/-- Nothing was ever spawned. -/
structure Idle (outbox : Outbox) : Prop where
  queued : outbox.queued = []
  running : outbox.running = []
  ended : outbox.ended = []
  entered : outbox.entered = []

theorem idle_start : start.Idle := ⟨rfl, rfl, rfl, rfl⟩

theorem Idle.sleep {outbox : Outbox} (h : outbox.Idle) (transport : Transport) (length : Nat) :
    (outbox.sleep transport length).Idle := by
  have hentering : outbox.entering transport = [] := by
    rw [entering, h.queued]
    rfl
  unfold Outbox.sleep
  split
  · exact h
  · refine ⟨rfl, ?_, ?_, ?_⟩
    · rw [wait, advance, enterQueued, h.running, hentering]
      rfl
    · rw [wait, advance, enterQueued, h.running, h.ended, hentering]
      rfl
    · rw [wait, advance, enterQueued, h.entered, h.queued]
      rfl

end Outbox

namespace Dispatcher

variable {dispatcher : Dispatcher} {outbox : Outbox}

theorem dispatch_of_dev (h : dispatcher.version = devVersion) (report : Report) (outbox : Outbox) :
    dispatcher.dispatch report outbox = (.suppressed, outbox) := by
  have hsuppressed : dispatcher.isSuppressed = true := decide_eq_true h
  rw [dispatch, if_pos hsuppressed]

theorem dispatch_ne_suppressed (h : dispatcher.version ≠ devVersion) (report : Report)
    (outbox : Outbox) : (dispatcher.dispatch report outbox).1 ≠ .suppressed := by
  have hsent := not_isSuppressed h
  cases hdelay : dispatcher.timelyDelay?
      (dispatcher.nextAnswer outbox (Event.ofReport report dispatcher.version)) with
  | some length =>
    rw [dispatch_of_timely hsent hdelay]
    cases (dispatcher.nextAnswer outbox (Event.ofReport report dispatcher.version)).result <;>
      exact nofun
  | none =>
    rw [dispatch_of_late hsent hdelay]
    exact nofun

/-- Whatever is asked of it, the dispatcher of a development build spawns nothing. -/
theorem idle_after (h : dispatcher.version = devVersion) (hidle : outbox.Idle)
    (calls : List DispatchCall) : (dispatcher.after outbox calls).Idle := by
  induction calls generalizing outbox with
  | nil => exact hidle
  | cons call calls ih =>
    apply ih
    cases call with
    | dispatch report =>
      show (dispatcher.dispatch report outbox).2.Idle
      rw [dispatch_of_dev h]
      exact hidle
    | sleep length => exact hidle.sleep _ _

end Dispatcher

namespace HostReply

/-- What a call shows of the way that its report took. -/
def outcome? : HostReply → Option DispatchOutcome
  | .dispatched outcome => some outcome
  | .hook (.succeeded outcome) => some outcome
  | .hook _ => none

end HostReply

namespace Host

variable {lifecycle : Lifecycle} {session : Session} {call : HostCall}

/-- The error with which a call ends an invocation. -/
def error? (session : Session) : HostCall → Option String
  | .hook (.fail name error) => (session.context? name).map fun _ => error
  | .hook (.failUnparsed _ error) => some error
  | .hook _ | .dispatch _ => none

/-- A call that shows what became of its report: a dispatch, or an ending without an error. -/
def Shows (session : Session) : HostCall → Prop
  | .dispatch _ => True
  | .hook (.success name) => (session.context? name).isSome
  | .hook _ => False

/-- A call that lets time pass: a sleep of some length, or a report with time to wait for it. -/
def Waits (lifecycle : Lifecycle) (session : Session) (call : HostCall) : Prop :=
  (∃ length, 0 < length ∧ call = .hook (.sleep length))
    ∨ 0 < lifecycle.dispatcher.ceiling ∧ (reported? lifecycle session call).isSome

theorem idle_after (command : Command) (h : lifecycle.dispatcher.version = Dispatcher.devVersion)
    (calls : List HostCall) : (after command lifecycle Session.start calls).outbox.Idle := by
  rw [outbox_after]
  exact Dispatcher.idle_after h Outbox.idle_start _

theorem outcome?_step (command : Command) (lifecycle : Lifecycle) (session : Session)
    (call : HostCall) :
    (Shows session call ∧ ∃ report, reported? lifecycle session call = some report
        ∧ (step command lifecycle session call).1.outcome?
          = some (lifecycle.dispatcher.dispatch report session.outbox).1)
      ∨ ¬ Shows session call ∧ (step command lifecycle session call).1.outcome? = none := by
  cases call with
  | dispatch report => exact .inl ⟨trivial, report, rfl, rfl⟩
  | hook call =>
    cases call with
    | success name =>
      rw [step, Session.step, Shows, reported?, Session.ending?]
      cases session.context? name with
      | none => exact .inr ⟨Bool.false_ne_true, rfl⟩
      | some context => exact .inl ⟨rfl, _, rfl, rfl⟩
    -- no other call shows what became of a report
    | parse name argv =>
      refine .inr ⟨id, ?_⟩
      rw [step, Session.step]
      cases command.parse argv <;> rfl
    | make name words args flags =>
      refine .inr ⟨id, ?_⟩
      rw [step, Session.step]
      cases lifecycle.tree.lookup words <;> rfl
    | start name =>
      refine .inr ⟨id, ?_⟩
      rw [step, Session.step]
      cases session.context? name <;> rfl
    | fail name error =>
      refine .inr ⟨id, ?_⟩
      rw [step, Session.step]
      cases session.context? name <;> rfl
    | sleep length => exact .inr ⟨id, rfl⟩
    | failUnparsed arguments error => exact .inr ⟨id, rfl⟩

/-- A failure is answered by its exit code and its printed line. -/
theorem step_of_error (command : Command) (lifecycle : Lifecycle) {error : String}
    (h : error? session call = some error) : (step command lifecycle session call).1
      = .hook (.failed ⟨1, "Error: " ++ error ++ "\n"⟩) := by
  cases call with
  | dispatch report => cases h
  | hook call =>
    cases call with
    | fail name text =>
      obtain ⟨context, hheld, rfl⟩ := Option.map_eq_some_iff.1 h
      rw [step, Session.step, hheld]
      rfl
    | failUnparsed arguments text =>
      cases h
      rfl
    | parse name argv => cases h
    | make name words args flags => cases h
    | start name => cases h
    | sleep length => cases h
    | success name => cases h

theorem queued_step (command : Command) (h : lifecycle.dispatcher.version ≠ Dispatcher.devVersion)
    (hwaits : Waits lifecycle session call) :
    (step command lifecycle session call).2.outbox.queued = [] := by
  rw [outbox_step]
  rcases hwaits with ⟨length, hlength, rfl⟩ | ⟨hceiling, hreported⟩
  · have hsleep : DispatchCall.waits lifecycle.dispatcher (.sleep length) := hlength
    exact Dispatcher.queued_step h hsleep session.outbox
  · obtain ⟨report, hreport⟩ := Option.isSome_iff_exists.1 hreported
    have hcall : ∀ length, call ≠ .hook (.sleep length) := by
      rintro length rfl
      cases hreport
    rw [asked?_of_not_sleep hcall, hreport]
    have hdispatch : DispatchCall.waits lifecycle.dispatcher (.dispatch report) := hceiling
    exact Dispatcher.queued_step h hdispatch session.outbox

/-- In a development build a shown outcome is that of a suppressed report. -/
theorem outcome?_of_dev (command : Command)
    (h : lifecycle.dispatcher.version = Dispatcher.devVersion) (hshows : Shows session call) :
    (step command lifecycle session call).1.outcome? = some .suppressed := by
  rcases outcome?_step command lifecycle session call with ⟨-, report, -, houtcome⟩ | ⟨hno, -⟩
  · rw [houtcome, Dispatcher.dispatch_of_dev h]
  · exact absurd hshows hno

theorem outcome?_of_not_dev (command : Command)
    (h : lifecycle.dispatcher.version ≠ Dispatcher.devVersion) (hshows : Shows session call) :
    ∃ outcome, outcome ≠ .suppressed
      ∧ (step command lifecycle session call).1.outcome? = some outcome := by
  rcases outcome?_step command lifecycle session call with ⟨-, report, -, houtcome⟩ | ⟨hno, -⟩
  · exact ⟨_, Dispatcher.dispatch_ne_suppressed h report session.outbox, houtcome⟩
  · exact absurd hshows hno

/-- In a development build nothing happens but sleeps. -/
theorem outbox_of_dev (command : Command)
    (h : lifecycle.dispatcher.version = Dispatcher.devVersion)
    (hcall : ∀ length, call ≠ .hook (.sleep length)) :
    (step command lifecycle session call).2.outbox = session.outbox := by
  rw [outbox_step, asked?_of_not_sleep hcall]
  cases reported? lifecycle session call with
  | none => rfl
  | some report => exact congrArg Prod.snd (Dispatcher.dispatch_of_dev h report session.outbox)

/-- In a development build every call of a host after every history leaves the transport alone and
takes no time unless it is a sleep, and every outcome that is shown is that of a suppressed report.
With any other version no such outcome is shown, what was handed over is entered in its order, and
all of it once time passes. A failure is printed and answered in the same way in both. -/
theorem inert_exactly_in_dev (command : Command) (lifecycle : Lifecycle) (calls : List HostCall)
    (call : HostCall) :
    let session := after command lifecycle Session.start calls
    let reply := (step command lifecycle session call).1
    let next := (step command lifecycle session call).2
    let events := (reports command lifecycle Session.start (calls ++ [call])).map
      fun report => Event.ofReport report lifecycle.dispatcher.version
    (lifecycle.dispatcher.version = "dev" →
        (Shows session call → reply.outcome? = some .suppressed)
          ∧ ((∀ length, call ≠ .hook (.sleep length)) → next.outbox = session.outbox)
          ∧ session.outbox.Idle ∧ next.outbox.Idle)
      ∧ (lifecycle.dispatcher.version ≠ "dev" →
        (Shows session call → ∃ outcome, outcome ≠ .suppressed ∧ reply.outcome? = some outcome)
          ∧ next.outbox.entered ++ next.outbox.queued = events
          ∧ (Waits lifecycle session call → next.outbox.entered = events))
      ∧ ∀ error, error? session call = some error →
        reply = .hook (.failed ⟨1, "Error: " ++ error ++ "\n"⟩) := by
  intro session reply next events
  have hnext : after command lifecycle Session.start (calls ++ [call]) = next :=
    after_concat command lifecycle Session.start calls call
  refine ⟨?_, ?_, fun error herror => step_of_error command lifecycle herror⟩
  · intro hdev
    have hidle : next.outbox.Idle := by
      rw [← hnext]
      exact idle_after command hdev _
    exact ⟨outcome?_of_dev command hdev, outbox_of_dev command hdev, idle_after command hdev calls,
      hidle⟩
  · intro hversion
    have haccounts : next.outbox.Accounts events := by
      rw [← hnext]
      exact accounts_after command hversion _
    refine ⟨outcome?_of_not_dev command hversion, haccounts.spawned, ?_⟩
    intro hwaits
    have hqueued : next.outbox.queued = [] := queued_step command hversion hwaits
    rw [← haccounts.spawned, hqueued, List.append_nil]

/-- The same calls, with no time to wait before the last one, in a development build and with a
version that is written alike. -/
theorem inert_exactly_in_dev_spelled_alike :
    let lifecycle : String → Lifecycle := fun version =>
      ⟨CommandTree.ofCommand Command.sample, ⟨version, 0, .stalling 40⟩⟩
    let report : Report := ⟨"docker.up", [], Flags.empty, Outcome.failed "port in use"⟩
    let calls := [HostCall.hook (.make "a" ["version"] ["-h", "x"] Flags.empty),
      .hook (.success "a"), .dispatch report]
    let sleep := HostCall.hook (.sleep 5)
    let next := fun version => (step Command.sample (lifecycle version)
      (after Command.sample (lifecycle version) Session.start calls) sleep).2
    (next "dev").outbox.Idle
      ∧ (next "Dev").outbox.entered.map (·.args) = [["x"], []] := by
  intro lifecycle report calls sleep next
  obtain ⟨hdev, -, -⟩ := inert_exactly_in_dev Command.sample (lifecycle "dev") calls sleep
  obtain ⟨-, hother, -⟩ := inert_exactly_in_dev Command.sample (lifecycle "Dev") calls sleep
  obtain ⟨-, -, -, hidle⟩ := hdev rfl
  obtain ⟨-, -, hentered⟩ := hother (by decide)
  have hwaits : Waits (lifecycle "Dev") (after Command.sample (lifecycle "Dev") Session.start calls)
      sleep := .inl ⟨5, by decide, rfl⟩
  refine ⟨hidle, ?_⟩
  rw [hentered hwaits]
  decide +kernel

end Host

end CommandTelemetry
