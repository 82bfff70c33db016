import CommandTelemetry.Dispatch.History
import Mathlib.Data.List.Forall2

/-!
# Every report is sent once

A dispatcher spawns one send for each report, and each of these sends is entered once, in the order
of the dispatches, whatever became of the ones before it.

* `Event.Carries` is what an event says of a report;
* `Outbox.Accounts` ties an outbox to the events that were spawned in it, and one lemma for each
  operation says what the operation does to that list;
* `Dispatcher.getElem?_run` says what stands behind one answer of a history, and
  `Dispatcher.accounts_after` what the outbox holds there;
* `Dispatcher.sends_exactly_once` is the law for every step of every history.
-/

namespace CommandTelemetry

namespace Event

/-- An event says what a report says, under a version: the command with its arguments and flags, and
either how many whole milliseconds a success took, as far as 64 bits go, or the error of a
failure. -/
structure Carries (event : Event) (report : Report) (version : String) : Prop where
  version : event.version = version
  command : event.command = report.command
  args : event.args = report.args
  flags : event.flags = report.flags
  result : match report.outcome with
    | .succeeded duration => event.success = true ∧ event.error = none
        ∧ event.durationMs = some (min (duration.nanos / 1000000) (Nat.pow 2 64 - 1))
    | .failedWith error => event.success = false ∧ event.error = some error
        ∧ event.durationMs = none

variable {event : Event} {report : Report} {version : String}

theorem carries_ofReport (report : Report) (version : String) :
    (ofReport report version).Carries report version := by
  obtain ⟨command, args, flags, outcome⟩ := report
  cases outcome with
  | succeeded duration => exact ⟨rfl, rfl, rfl, rfl, rfl, rfl, rfl⟩
  | failedWith error => exact ⟨rfl, rfl, rfl, rfl, rfl, rfl, rfl⟩

/-- Only one event says what a report says. -/
theorem carries_iff : event.Carries report version ↔ event = ofReport report version := by
  constructor
  · rintro ⟨hversion, hcommand, hargs, hflags, hresult⟩
    cases event
    cases houtcome : report.outcome with
    | succeeded duration =>
      rw [houtcome] at hresult
      obtain ⟨hsuccess, herror, hduration⟩ := hresult
      simp only [ofReport, houtcome, Event.mk.injEq]
      exact ⟨hcommand, hargs, hflags, hsuccess, herror, hduration, hversion⟩
    | failedWith error =>
      rw [houtcome] at hresult
      obtain ⟨hsuccess, herror, hduration⟩ := hresult
      simp only [ofReport, houtcome, Event.mk.injEq]
      exact ⟨hcommand, hargs, hflags, hsuccess, herror, hduration, hversion⟩
  · rintro rfl
    exact carries_ofReport report version

/-- Events carry reports one by one just if they are their events. -/
theorem forall₂_carries_iff {events : List Event} {reports : List Report} :
    List.Forall₂ (fun event report => event.Carries report version) events reports
      ↔ events = reports.map fun report => ofReport report version := by
  simp only [carries_iff]
  rw [← List.forall₂_map_right_iff, List.forall₂_eq_eq_eq]

end Event

namespace Outbox

/-- These events were spawned in this order. Those at the front are entered, the others wait to be,
and what was entered is under way or has ended. -/
structure Accounts (outbox : Outbox) (events : List Event) : Prop where
  spawned : outbox.entered ++ outbox.queued = events
  entered : ((outbox.running ++ outbox.ended).map (·.event)).Perm outbox.entered

theorem accounts_start : start.Accounts [] :=
  ⟨rfl, List.Perm.refl _⟩

/-- Nothing is counted twice and nothing is left out. -/
theorem Accounts.attempts_add {outbox : Outbox} {events : List Event}
    (h : outbox.Accounts events) : outbox.attempts + outbox.queued.length = events.length := by
  rw [← h.spawned, List.length_append]
  rfl

theorem Accounts.spawn {outbox : Outbox} {events : List Event} (h : outbox.Accounts events)
    (event : Event) : (outbox.spawn event).Accounts (events ++ [event]) := by
  refine ⟨?_, h.entered⟩
  show outbox.entered ++ (outbox.queued ++ [event]) = events ++ [event]
  rw [← List.append_assoc, h.spawned]

/-- The sends that are entered are those of the queued events, one for each and in their order. -/
@[simp] theorem map_event_entering (transport : Transport) (outbox : Outbox) :
    (outbox.entering transport).map (·.event) = outbox.queued := by
  apply List.ext_getElem?
  intro place
  rw [List.getElem?_map, entering, List.getElem?_mapIdx, Option.map_map]
  exact Option.map_id'

theorem Accounts.enterQueued {outbox : Outbox} {events : List Event} (h : outbox.Accounts events)
    (transport : Transport) : (outbox.enterQueued transport).Accounts events := by
  refine ⟨?_, ?_⟩
  · show (outbox.entered ++ outbox.queued) ++ [] = events
    rw [List.append_nil, h.spawned]
  · show ((outbox.running ++ outbox.entering transport ++ outbox.ended).map (·.event)).Perm
      (outbox.entered ++ outbox.queued)
    -- the new sends stand between those under way and those that ended
    have hswap : (outbox.running ++ outbox.entering transport ++ outbox.ended).Perm
        (outbox.running ++ outbox.ended ++ outbox.entering transport) := by
      rw [List.append_assoc, List.append_assoc]
      exact List.Perm.append_left _ List.perm_append_comm
    refine (hswap.map _).trans ?_
    rw [List.map_append, map_event_entering]
    exact h.entered.append_right _

theorem Accounts.advance {outbox : Outbox} {events : List Event} (h : outbox.Accounts events)
    (time : Nat) : (outbox.advance time).Accounts events := by
  refine ⟨h.spawned, ?_⟩
  show ((outbox.running.filter (fun send => !send.endsBy time)
      ++ (outbox.ended ++ outbox.running.filter (·.endsBy time))).map (·.event)).Perm outbox.entered
  -- what is due moves from the sends under way to the ended ones
  have hsplit : (outbox.running.filter (fun send => !send.endsBy time)
      ++ (outbox.ended ++ outbox.running.filter (·.endsBy time))).Perm
        (outbox.running ++ outbox.ended) := by
    have hparts := List.filter_append_perm (·.endsBy time) outbox.running
    refine (List.Perm.append_left _ List.perm_append_comm).trans ?_
    rw [← List.append_assoc]
    exact (List.perm_append_comm.trans hparts).append_right _
  exact (hsplit.map _).trans h.entered

theorem Accounts.wait {outbox : Outbox} {events : List Event} (h : outbox.Accounts events)
    (transport : Transport) (length : Nat) : (outbox.wait transport length).Accounts events :=
  (h.enterQueued transport).advance _

theorem Accounts.sleep {outbox : Outbox} {events : List Event} (h : outbox.Accounts events)
    (transport : Transport) (length : Nat) : (outbox.sleep transport length).Accounts events := by
  unfold Outbox.sleep
  split
  · exact h
  · exact h.wait transport _

/-- A wait leaves nothing that was not entered. -/
@[simp] theorem queued_wait (transport : Transport) (length : Nat) (outbox : Outbox) :
    (outbox.wait transport length).queued = [] := rfl

theorem queued_sleep (transport : Transport) {length : Nat} (h : 0 < length) (outbox : Outbox) :
    (outbox.sleep transport length).queued = [] := by
  have hlength : length ≠ 0 := by omega
  rw [sleep, if_neg hlength, queued_wait]

end Outbox

namespace DispatchCall

/-- The report of a dispatch. -/
def report? : DispatchCall → Option Report
  | .dispatch report => some report
  | .sleep _ => none

/-- A call that lets time pass: a dispatch with time to wait, or a sleep of some length. -/
def waits (dispatcher : Dispatcher) : DispatchCall → Prop
  | .dispatch _ => 0 < dispatcher.ceiling
  | .sleep length => 0 < length

end DispatchCall

namespace Dispatcher

variable {dispatcher : Dispatcher} {outbox : Outbox} {events : List Event}

/-- The events of a sequence of calls: the reports in the order of their dispatches, each with the
version of the dispatcher. -/
def eventsOf (dispatcher : Dispatcher) (calls : List DispatchCall) : List Event :=
  (calls.filterMap DispatchCall.report?).map fun report =>
    Event.ofReport report dispatcher.version

theorem eventsOf_append (dispatcher : Dispatcher) (first second : List DispatchCall) :
    dispatcher.eventsOf (first ++ second)
      = dispatcher.eventsOf first ++ dispatcher.eventsOf second := by
  simp only [eventsOf, List.filterMap_append, List.map_append]

theorem not_isSuppressed (h : dispatcher.version ≠ devVersion) :
    dispatcher.isSuppressed = false := by
  rw [isSuppressed, decide_eq_false_iff_not]
  exact h

/-- A dispatch spawns one send and then waits, for the send or for as long as it may. -/
theorem dispatch_snd (h : dispatcher.version ≠ devVersion) (report : Report) (outbox : Outbox) :
    (dispatcher.dispatch report outbox).2
      = match dispatcher.timelyDelay?
          (dispatcher.nextAnswer outbox (Event.ofReport report dispatcher.version)) with
        | some delay => (outbox.spawn (Event.ofReport report dispatcher.version)).wait
            dispatcher.transport delay
        | none => (outbox.spawn (Event.ofReport report dispatcher.version)).sleep
            dispatcher.transport dispatcher.ceiling := by
  rw [dispatch, if_neg (by rw [not_isSuppressed h]; exact Bool.false_ne_true)]
  dsimp only
  cases dispatcher.timelyDelay? _ <;> rfl

theorem accounts_dispatch (h : dispatcher.version ≠ devVersion) (hout : outbox.Accounts events)
    (report : Report) : (dispatcher.dispatch report outbox).2.Accounts
      (events ++ [Event.ofReport report dispatcher.version]) := by
  have hspawn := hout.spawn (Event.ofReport report dispatcher.version)
  rw [dispatch_snd h]
  split
  · exact hspawn.wait _ _
  · exact hspawn.sleep _ _

/-- A dispatch with time to wait enters everything that was spawned. -/
theorem queued_dispatch (h : dispatcher.version ≠ devVersion) (hceiling : 0 < dispatcher.ceiling)
    (report : Report) (outbox : Outbox) : (dispatcher.dispatch report outbox).2.queued = [] := by
  rw [dispatch_snd h]
  split
  · exact Outbox.queued_wait _ _ _
  · exact Outbox.queued_sleep _ hceiling _

/-- A dispatch with time to wait enters its own event last. -/
theorem entered_dispatch (h : dispatcher.version ≠ devVersion) (hceiling : 0 < dispatcher.ceiling)
    (report : Report) (outbox : Outbox) : (dispatcher.dispatch report outbox).2.entered
      = outbox.entered ++ outbox.queued ++ [Event.ofReport report dispatcher.version] := by
  have hwait : ∀ length, ((outbox.spawn (Event.ofReport report dispatcher.version)).wait
      dispatcher.transport length).entered
        = outbox.entered ++ outbox.queued ++ [Event.ofReport report dispatcher.version] :=
    fun _ => (List.append_assoc _ _ _).symm
  have hpositive : dispatcher.ceiling ≠ 0 := by omega
  rw [dispatch_snd h]
  split
  · exact hwait _
  · rw [Outbox.sleep, if_neg hpositive]
    exact hwait _

theorem accounts_step (h : dispatcher.version ≠ devVersion) (hout : outbox.Accounts events)
    (call : DispatchCall) :
    (dispatcher.step outbox call).outbox.Accounts (events ++ dispatcher.eventsOf [call]) := by
  cases call with
  | dispatch report => exact accounts_dispatch h hout report
  | sleep length =>
    show (outbox.sleep dispatcher.transport length).Accounts (events ++ [])
    rw [List.append_nil]
    exact hout.sleep _ _

theorem queued_step (h : dispatcher.version ≠ devVersion) {call : DispatchCall}
    (hwaits : call.waits dispatcher) (outbox : Outbox) :
    (dispatcher.step outbox call).outbox.queued = [] := by
  cases call with
  | dispatch report => exact queued_dispatch h hwaits report outbox
  | sleep length => exact Outbox.queued_sleep _ hwaits outbox

theorem after_cons (dispatcher : Dispatcher) (outbox : Outbox) (call : DispatchCall)
    (calls : List DispatchCall) : dispatcher.after outbox (call :: calls)
      = dispatcher.after (dispatcher.step outbox call).outbox calls := rfl

theorem accounts_after (h : dispatcher.version ≠ devVersion) (hout : outbox.Accounts events)
    (calls : List DispatchCall) :
    (dispatcher.after outbox calls).Accounts (events ++ dispatcher.eventsOf calls) := by
  induction calls generalizing outbox events with
  | nil =>
    show outbox.Accounts (events ++ [])
    rw [List.append_nil]
    exact hout
  | cons call calls ih =>
    have hcalls : dispatcher.eventsOf (call :: calls)
        = dispatcher.eventsOf [call] ++ dispatcher.eventsOf calls :=
      eventsOf_append dispatcher [call] calls
    rw [after_cons, hcalls, ← List.append_assoc]
    exact ih (accounts_step h hout call)

theorem after_append (dispatcher : Dispatcher) (outbox : Outbox)
    (first second : List DispatchCall) : dispatcher.after outbox (first ++ second)
      = dispatcher.after (dispatcher.after outbox first) second :=
  List.foldl_append

/-- With time to wait nothing is ever left to be entered. -/
theorem queued_after (h : dispatcher.version ≠ devVersion) (hceiling : 0 < dispatcher.ceiling)
    (houtbox : outbox.queued = []) (calls : List DispatchCall) :
    (dispatcher.after outbox calls).queued = [] := by
  induction calls generalizing outbox with
  | nil => exact houtbox
  | cons call calls ih =>
    apply ih
    cases call with
    | dispatch report => exact queued_dispatch h hceiling report outbox
    | sleep length =>
      show (outbox.sleep dispatcher.transport length).queued = []
      unfold Outbox.sleep
      split
      · exact houtbox
      · rfl

/-- Each answer of a history is that of its call, in the outbox that the calls before it left. -/
theorem getElem?_run (dispatcher : Dispatcher) (outbox : Outbox) (calls : List DispatchCall)
    (i : Nat) : (dispatcher.run outbox calls)[i]?
      = calls[i]?.map (dispatcher.step (dispatcher.after outbox (calls.take i))) := by
  induction calls generalizing outbox i with
  | nil => simp [run]
  | cons call calls ih =>
    cases i with
    | zero => rfl
    | succ i =>
      rw [run, List.getElem?_cons_succ, List.getElem?_cons_succ, List.take_succ_cons, after_cons]
      exact ih _ _

/-- After every step of every history the events that were entered, followed by those that wait to
be, carry the reports dispatched so far, one each and in order, under the version of the dispatcher;
what was entered is under way or has ended; and nothing waits to be entered after a step that lets
time pass. -/
theorem sends_exactly_once (dispatcher : Dispatcher) (h : dispatcher.version ≠ devVersion)
    (calls : List DispatchCall) (i : Nat) (call : DispatchCall) (hcall : calls[i]? = some call) :
    ∃ answer, (dispatcher.run Outbox.start calls)[i]? = some answer
      ∧ answer.outbox.attempts + answer.outbox.queued.length
        = ((calls.take (i + 1)).filterMap DispatchCall.report?).length
      ∧ List.Forall₂ (fun event report => event.Carries report dispatcher.version)
          (answer.outbox.entered ++ answer.outbox.queued)
          ((calls.take (i + 1)).filterMap DispatchCall.report?)
      ∧ ((answer.outbox.running ++ answer.outbox.ended).map (·.event)).Perm answer.outbox.entered
      ∧ (call.waits dispatcher → answer.outbox.queued = []) := by
  have htake : calls.take (i + 1) = calls.take i ++ [call] := by
    rw [List.take_add_one, hcall, Option.toList_some]
  have hbefore := accounts_after h Outbox.accounts_start (calls.take i)
  have haccounts := accounts_step h hbefore call
  rw [List.nil_append, ← eventsOf_append, ← htake] at haccounts
  refine ⟨dispatcher.step (dispatcher.after Outbox.start (calls.take i)) call, ?_, ?_,
    Event.forall₂_carries_iff.2 haccounts.spawned, haccounts.entered, ?_⟩
  · rw [getElem?_run, hcall, Option.map_some]
  · rw [haccounts.attempts_add, eventsOf, List.length_map]
  · intro hwaits
    exact queued_step h hwaits _

/-- Two dispatches with no time to wait pile up, and both sends are entered in a later sleep, though
the first of them dies. -/
theorem sends_exactly_once_piled_up :
    let transport : Transport :=
      ⟨fun number _ => if number = 0 then ⟨.died, some 0⟩ else ⟨.accepted, some 3⟩⟩
    let dispatcher : Dispatcher := ⟨"0.3.1", 0, transport⟩
    let first : Report := ⟨"docker.up", [], Flags.empty, Outcome.failed ""⟩
    let second : Report := ⟨"root", ["x"], Flags.empty, .succeeded ⟨40999999⟩⟩
    let calls := [DispatchCall.dispatch first, .dispatch second, .sleep 5]
    dispatcher.version ≠ devVersion ∧ calls[2]? = some (.sleep 5)
      ∧ ∃ answer, (dispatcher.run Outbox.start calls)[2]? = some answer
        ∧ answer.outbox.entered
          = [⟨"docker.up", [], Flags.empty, false, some "unknown error", none, "0.3.1"⟩,
            ⟨"root", ["x"], Flags.empty, true, none, some 40, "0.3.1"⟩] := by
  intro transport dispatcher first second calls
  have hversion : dispatcher.version ≠ devVersion := by decide
  obtain ⟨answer, hanswer, -, hcarries, -, hwaits⟩ :=
    sends_exactly_once dispatcher hversion calls 2 (.sleep 5) rfl
  have hqueued : answer.outbox.queued = [] := hwaits (Nat.succ_pos 4)
  rw [hqueued, List.append_nil] at hcarries
  exact ⟨hversion, rfl, answer, hanswer, Event.forall₂_carries_iff.1 hcarries⟩

end Dispatcher

end CommandTelemetry
