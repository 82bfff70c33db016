import CommandTelemetry.Proofs.Dispatch.BoundedWaitTheorems
import CommandTelemetry.Proofs.Lifecycle.SessionTheorems
import Mathlib.Algebra.BigOperators.Intervals

/-!
# How long invocations took

The duration in the event of an invocation is the time from its last start to the call that ends it.
The waits for the reports of other invocations count, the wait for its own report does not.

* `Session.takes` is how long a call takes, and `Session.clock_eq_sum` adds this up over a history;
* `Session.LastStart` says which call started an invocation last, and `Session.startedAt_iff` that
  the invocation keeps the time of this call;
* `Session.success_reports_time_since_start` is the law for every invocation that ends well.
-/

namespace CommandTelemetry

/-! ## How long calls take -/

namespace Dispatcher

variable {dispatcher : Dispatcher}

/-- How long a call takes: a sleep takes its own length, and a dispatch waits for its send. -/
def takes (dispatcher : Dispatcher) (outbox : Outbox) : DispatchCall → Nat
  | .dispatch report => dispatcher.waitLength
      (dispatcher.nextAnswer outbox (Event.ofReport report dispatcher.version))
  | .sleep length => Timer.length length

theorem now_step (h : dispatcher.version ≠ devVersion) (outbox : Outbox) (call : DispatchCall) :
    (dispatcher.step outbox call).outbox.now = outbox.now + dispatcher.takes outbox call := by
  cases call with
  | dispatch report => exact (dispatch_for h report outbox).2
  | sleep length => exact now_sleep dispatcher.transport length outbox

theorem takes_le (dispatcher : Dispatcher) (outbox : Outbox) (call : DispatchCall) :
    dispatcher.takes outbox call ≤ Timer.longest := by
  cases call with
  | dispatch report => exact (waitLength_le dispatcher _).trans (Nat.min_le_right _ _)
  | sleep length => exact Nat.min_le_right _ _

end Dispatcher

namespace Session

variable {command : Command} {lifecycle : Lifecycle} {calls : List HookCall} {name : String}

/-- How long a call takes. A call that asks nothing of the dispatcher takes no time. -/
def takes (lifecycle : Lifecycle) (session : Session) (call : HookCall) : Nat :=
  (Host.asked? lifecycle session (.hook call)).elim 0 (lifecycle.dispatcher.takes session.outbox)

theorem now_step (h : lifecycle.dispatcher.version ≠ Dispatcher.devVersion) (session : Session)
    (call : HookCall) : (step command lifecycle session call).2.outbox.now
      = session.outbox.now + session.takes lifecycle call := by
  have hstep : (step command lifecycle session call).2.outbox
      = lifecycle.dispatcher.after session.outbox
          (Host.asked? lifecycle session (.hook call)).toList :=
    Host.outbox_step command lifecycle session (.hook call)
  rw [hstep, takes]
  cases Host.asked? lifecycle session (.hook call) with
  | none => rfl
  | some asked => exact Dispatcher.now_step h session.outbox asked

theorem takes_le (lifecycle : Lifecycle) (session : Session) (call : HookCall) :
    session.takes lifecycle call ≤ Timer.longest := by
  unfold takes
  cases Host.asked? lifecycle session (.hook call) with
  | none => exact Nat.zero_le _
  | some asked => exact Dispatcher.takes_le _ _ _

/-- The session that a call of a history finds. -/
def foundAt (command : Command) (lifecycle : Lifecycle) (calls : List HookCall) (place : Nat) :
    Session :=
  start.after command lifecycle (calls.take place)

/-- The time at which a call of a history begins. -/
def clock (command : Command) (lifecycle : Lifecycle) (calls : List HookCall) (place : Nat) : Nat :=
  (foundAt command lifecycle calls place).outbox.now

/-- How long a call of a history takes. -/
def takesAt (command : Command) (lifecycle : Lifecycle) (calls : List HookCall) (place : Nat) :
    Nat :=
  calls[place]?.elim 0 ((foundAt command lifecycle calls place).takes lifecycle)

theorem foundAt_succ_of_none {place : Nat} (hcall : calls[place]? = none) :
    foundAt command lifecycle calls (place + 1) = foundAt command lifecycle calls place := by
  rw [foundAt, foundAt, List.take_add_one, hcall, Option.toList_none, List.append_nil]

theorem clock_succ (h : lifecycle.dispatcher.version ≠ Dispatcher.devVersion)
    (calls : List HookCall) (place : Nat) : clock command lifecycle calls (place + 1)
      = clock command lifecycle calls place + takesAt command lifecycle calls place := by
  unfold clock takesAt
  cases hcall : calls[place]? with
  | none => rw [foundAt_succ_of_none hcall, Option.elim_none, Nat.add_zero]
  | some call =>
    rw [foundAt, after_take_succ command lifecycle start hcall]
    exact now_step h _ call

/-- Between two calls passes the time that the calls from the first one on take. -/
theorem clock_eq_sum (h : lifecycle.dispatcher.version ≠ Dispatcher.devVersion)
    (calls : List HookCall) {first place : Nat} (hle : first ≤ place) :
    clock command lifecycle calls place = clock command lifecycle calls first
      + ∑ i ∈ Finset.Ico first place, takesAt command lifecycle calls i := by
  induction place, hle using Nat.le_induction with
  | base => rw [Finset.Ico_self, Finset.sum_empty, Nat.add_zero]
  | succ place hle ih => rw [clock_succ h, ih, Finset.sum_Ico_succ_top hle, Nat.add_assoc]

theorem takesAt_le (command : Command) (lifecycle : Lifecycle) (calls : List HookCall)
    (place : Nat) : takesAt command lifecycle calls place ≤ Timer.longest := by
  unfold takesAt
  cases calls[place]? with
  | none => exact Nat.zero_le _
  | some call => exact takes_le _ _ _

theorem clock_le (h : lifecycle.dispatcher.version ≠ Dispatcher.devVersion)
    (calls : List HookCall) (place : Nat) :
    clock command lifecycle calls place ≤ place * Timer.longest := by
  induction place with
  | zero => exact Nat.zero_le _
  | succ place ih =>
    have htakes := takesAt_le command lifecycle calls place
    rw [clock_succ h, Nat.add_mul, Nat.one_mul]
    omega

end Session

/-! ## When an invocation was started -/

namespace HookCall

/-- The call makes a new invocation under a name. -/
def Makes (command : Command) (tree : CommandTree) (name : String) : HookCall → Prop
  | .parse other argv => other = name ∧ ∃ parsed, command.parse argv = .ok parsed
  | .make other words _ _ => other = name ∧ ∃ node, tree.lookup words = some node
  | .start _ | .sleep _ | .success _ | .fail _ _ | .failUnparsed _ _ => False

/-- What is held under a name is started, is new and was never started, or stays as it is. -/
theorem heldAfter_cases (command : Command) (tree : CommandTree) (now : Nat) (name : String)
    (held : Option Context) (call : HookCall) :
    call = .start name
        ∧ call.heldAfter command tree now name held = held.map (·.start now)
      ∨ call.Makes command tree name
        ∧ (∃ context, call.heldAfter command tree now name held = some context
          ∧ context.startedAt = none)
      ∨ (call ≠ .start name ∧ ¬ call.Makes command tree name)
        ∧ ∀ context, call.heldAfter command tree now name held = some context →
          held = some context := by
  cases call with
  | parse other argv =>
    rw [heldAfter, Makes]
    split
    · next hname =>
      cases command.parse argv with
      | ok parsed =>
        refine .inr (.inl ⟨⟨hname, parsed, rfl⟩, _, rfl, ?_⟩)
        unfold Context.ofParsed
        dsimp only
        split <;> rfl
      | error fault =>
        refine .inr (.inr ⟨⟨by rintro ⟨⟩, ?_⟩, fun _ hheld => hheld⟩)
        rintro ⟨-, parsed, hparsed⟩
        cases hparsed
    · next hname =>
      exact .inr (.inr ⟨⟨by rintro ⟨⟩, fun hmakes => hname hmakes.1⟩, fun _ hheld => hheld⟩)
  | make other words args flags =>
    rw [heldAfter, Makes]
    split
    · next hname =>
      cases tree.lookup words with
      | some node => exact .inr (.inl ⟨⟨hname, node, rfl⟩, _, rfl, rfl⟩)
      | none =>
        refine .inr (.inr ⟨⟨by rintro ⟨⟩, ?_⟩, fun _ hheld => hheld⟩)
        rintro ⟨-, node, hnode⟩
        cases hnode
    · next hname =>
      exact .inr (.inr ⟨⟨by rintro ⟨⟩, fun hmakes => hname hmakes.1⟩, fun _ hheld => hheld⟩)
  | start other =>
    rw [heldAfter]
    split
    · next hname => exact .inl ⟨by rw [hname], rfl⟩
    · next hname =>
      refine .inr (.inr ⟨⟨fun heq => ?_, id⟩, fun _ hheld => hheld⟩)
      cases heq
      exact hname rfl
  | success other =>
    rw [heldAfter]
    refine .inr (.inr ⟨⟨by rintro ⟨⟩, id⟩, fun context hheld => ?_⟩)
    split at hheld
    · cases hheld
    · exact hheld
  | fail other error =>
    rw [heldAfter]
    refine .inr (.inr ⟨⟨by rintro ⟨⟩, id⟩, fun context hheld => ?_⟩)
    split at hheld
    · cases hheld
    · exact hheld
  | sleep length => exact .inr (.inr ⟨⟨by rintro ⟨⟩, id⟩, fun _ hheld => hheld⟩)
  | failUnparsed arguments error => exact .inr (.inr ⟨⟨by rintro ⟨⟩, id⟩, fun _ hheld => hheld⟩)

end HookCall

namespace Session

variable {command : Command} {lifecycle : Lifecycle} {calls : List HookCall} {name : String}

/-- The last call before a place that starts the invocation held there under a name: after it the
invocation is neither started again nor replaced by a new one. -/
structure LastStart (command : Command) (tree : CommandTree) (calls : List HookCall)
    (name : String) (first place : Nat) : Prop where
  lt : first < place
  start : calls[first]? = some (.start name)
  between : ∀ i call, first < i → i < place → calls[i]? = some call →
    call ≠ .start name ∧ ¬ call.Makes command tree name

theorem lastStart_succ_of_start {tree : CommandTree} {first place : Nat}
    (hcall : calls[place]? = some (.start name)) :
    LastStart command tree calls name first (place + 1) ↔ first = place := by
  constructor
  · intro hlast
    have hnot : ¬ first < place := fun hlt =>
      (hlast.between place _ hlt (Nat.lt_succ_self place) hcall).1 rfl
    have hlt := hlast.lt
    omega
  · rintro rfl
    refine ⟨Nat.lt_succ_self first, hcall, ?_⟩
    intro i call hlt hle
    omega

theorem not_lastStart_succ_of_makes {tree : CommandTree} {first place : Nat} {call : HookCall}
    (hcall : calls[place]? = some call) (hmakes : call.Makes command tree name) :
    ¬ LastStart command tree calls name first (place + 1) := by
  intro hlast
  rcases Nat.lt_succ_iff_lt_or_eq.1 hlast.lt with hlt | rfl
  · exact (hlast.between place call hlt (Nat.lt_succ_self place) hcall).2 hmakes
  · -- a start makes nothing
    have hstart := hlast.start
    rw [hcall, Option.some.injEq] at hstart
    rw [hstart] at hmakes
    exact hmakes

theorem lastStart_succ_of_other {tree : CommandTree} {first place : Nat}
    (hother : ∀ call, calls[place]? = some call →
      call ≠ .start name ∧ ¬ call.Makes command tree name) :
    LastStart command tree calls name first (place + 1)
      ↔ LastStart command tree calls name first place := by
  constructor
  · intro hlast
    refine ⟨?_, hlast.start, fun i call hlt hi => hlast.between i call hlt (Nat.lt_succ_of_lt hi)⟩
    rcases Nat.lt_succ_iff_lt_or_eq.1 hlast.lt with hlt | rfl
    · exact hlt
    · exact absurd rfl (hother _ hlast.start).1
  · intro hlast
    refine ⟨Nat.lt_succ_of_lt hlast.lt, hlast.start, ?_⟩
    intro i call hlt hi hcall
    rcases Nat.lt_succ_iff_lt_or_eq.1 hi with hi | rfl
    · exact hlast.between i call hlt hi hcall
    · exact hother call hcall

/-- An invocation keeps the time at which its last start began. -/
theorem startedAt_iff (command : Command) (lifecycle : Lifecycle) (calls : List HookCall)
    (place : Nat) {context : Context}
    (hheld : (foundAt command lifecycle calls place).context? name = some context) (time : Nat) :
    context.startedAt = some time ↔ ∃ first,
      LastStart command lifecycle.tree calls name first place
        ∧ time = clock command lifecycle calls first := by
  induction place generalizing context with
  | zero => cases hheld
  | succ place ih =>
    cases hcall : calls[place]? with
    | none =>
      rw [foundAt_succ_of_none hcall] at hheld
      have hother : ∀ call, calls[place]? = some call →
          call ≠ .start name ∧ ¬ call.Makes command lifecycle.tree name := by
        intro call hsome
        rw [hcall] at hsome
        cases hsome
      simp only [lastStart_succ_of_other hother]
      exact ih hheld
    | some call =>
      rw [foundAt, after_take_succ command lifecycle start hcall, context?_step] at hheld
      rcases call.heldAfter_cases command lifecycle.tree
          (foundAt command lifecycle calls place).outbox.now name
          ((foundAt command lifecycle calls place).context? name) with
        ⟨rfl, hstarted⟩ | ⟨hmakes, new, hnew, hnone⟩ | ⟨hother, hsame⟩
      · -- the call starts the invocation, at the time at which it begins
        obtain ⟨old, -, rfl⟩ := Option.map_eq_some_iff.1 (hstarted.symm.trans hheld)
        simp only [lastStart_succ_of_start hcall, exists_eq_left]
        rw [Context.start, Option.some.injEq]
        exact eq_comm
      · -- a new invocation was never started
        obtain rfl : new = context := Option.some.inj (hnew.symm.trans hheld)
        rw [hnone]
        refine ⟨nofun, ?_⟩
        rintro ⟨first, hlast, -⟩
        exact absurd hlast (not_lastStart_succ_of_makes hcall hmakes)
      · have hplace : ∀ other, calls[place]? = some other →
            other ≠ .start name ∧ ¬ other.Makes command lifecycle.tree name := by
          intro other hsome
          rw [hcall, Option.some.injEq] at hsome
          rwa [← hsome]
        simp only [lastStart_succ_of_other hplace]
        exact ih (hsame context hheld)

/-! ## Durations -/

theorem endings_append (command : Command) (lifecycle : Lifecycle) (session : Session)
    (first second : List HookCall) : session.endings command lifecycle (first ++ second)
      = session.endings command lifecycle first
        ++ (session.after command lifecycle first).endings command lifecycle second := by
  induction first generalizing session with
  | nil => rfl
  | cons call first ih => rw [List.cons_append, endings, endings, ih, List.append_assoc]; rfl

/-- Later calls leave the endings of a history in their places. -/
theorem getElem?_endings (command : Command) (lifecycle : Lifecycle) {place later : Nat}
    {call : HookCall} {ending : Ending} (hcall : calls[place]? = some call)
    (hending : (foundAt command lifecycle calls place).ending? call = some ending)
    (hlater : place < later) : (start.endings command lifecycle (calls.take later))[
      (start.endings command lifecycle (calls.take place)).length]? = some ending := by
  have hsplit : calls.take later
      = calls.take place ++ call :: (calls.take later).drop (place + 1) := by
    have htake : (calls.take later).take (place + 1) = calls.take place ++ [call] := by
      rw [List.take_take, Nat.min_eq_left hlater, List.take_add_one, hcall, Option.toList_some]
    rw [List.append_cons, ← htake, List.take_append_drop]
  rw [hsplit, endings_append, endings]
  show (_ ++ (((foundAt command lifecycle calls place).ending? call).toList ++ _))[_]? = _
  rw [hending, List.getElem?_append_right (Nat.le_refl _), Nat.sub_self]
  rfl

/-- What was spawned by any time are the events of the endings by then. -/
theorem spawned_foundAt (command : Command)
    (h : lifecycle.dispatcher.version ≠ Dispatcher.devVersion) (calls : List HookCall)
    (place : Nat) :
    (foundAt command lifecycle calls place).outbox.entered
        ++ (foundAt command lifecycle calls place).outbox.queued
      = (start.endings command lifecycle (calls.take place)).map lifecycle.event := by
  have haccounts := Host.accounts_after command h ((calls.take place).map .hook)
  rw [← after_eq_host, reports_hooks, List.map_map] at haccounts
  exact haccounts.spawned

/-- An invocation that ends well is reported by one event, which stays the same from the ending on,
whether it waits to be entered, is under way or was delivered. Its duration is the time from the
last start of the invocation to the ending, in which every call in between counts with the time that
it takes; it is zero if the invocation was never started. Only what an event cannot hold is cut
off, and in a history of so many calls no more than so many times thirty years pass. -/
theorem success_reports_time_since_start (command : Command) (lifecycle : Lifecycle)
    (h : lifecycle.dispatcher.version ≠ Dispatcher.devVersion) (calls : List HookCall) (place : Nat)
    (name : String) (context : Context) (hcall : calls[place]? = some (.success name))
    (hheld : (foundAt command lifecycle calls place).context? name = some context) :
    let outbox := fun later => (foundAt command lifecycle calls later).outbox
    let number := (start.endings command lifecycle (calls.take place)).length
    ∃ event time,
      (∀ later, place < later →
          ((outbox later).entered ++ (outbox later).queued)[number]? = some event)
        ∧ event.Describes lifecycle (.success context (outbox place).now)
        ∧ event.durationMs = some (min time (Nat.pow 2 64 - 1))
        ∧ time ≤ place * Timer.longest
        ∧ (∀ first, LastStart command lifecycle.tree calls name first place →
            time = (outbox place).now - (outbox first).now
              ∧ time = ∑ i ∈ Finset.Ico first place, takesAt command lifecycle calls i)
        ∧ ((¬ ∃ first, LastStart command lifecycle.tree calls name first place) → time = 0) := by
  intro outbox number
  have hending : (foundAt command lifecycle calls place).ending? (.success name)
      = some (.success context (outbox place).now) := by
    rw [ending?, hheld]
    rfl
  have hdescribes := lifecycle.describes_event (.success context (outbox place).now)
  have hstarted := startedAt_iff command lifecycle calls place hheld
  have hclock : (outbox place).now ≤ place * Timer.longest := clock_le h calls place
  refine ⟨lifecycle.event (.success context (outbox place).now), context.elapsed (outbox place).now,
    ?_, hdescribes, ?_, ?_, ?_, ?_⟩
  · intro later hlater
    rw [spawned_foundAt command h calls later, List.getElem?_map,
      getElem?_endings command lifecycle hcall hending hlater]
    rfl
  · obtain ⟨-, -, hduration⟩ := hdescribes.result
    rw [hduration, Duration.millis, Duration.ofMillis, Nat.mul_div_cancel _ (by decide),
      Duration.reportableMillis]
  · unfold Context.elapsed
    cases context.startedAt with
    | none => exact Nat.zero_le _
    | some time => exact (Nat.sub_le _ _).trans hclock
  · intro first hlast
    have htime := (hstarted (outbox first).now).2 ⟨first, hlast, rfl⟩
    have helapsed : context.elapsed (outbox place).now
        = (outbox place).now - (outbox first).now := by
      rw [Context.elapsed, htime]
      rfl
    have hsum : (outbox place).now = (outbox first).now
        + ∑ i ∈ Finset.Ico first place, takesAt command lifecycle calls i :=
      clock_eq_sum h calls (Nat.le_of_lt hlast.lt)
    exact ⟨helapsed, by omega⟩
  · intro hnever
    have hnone : context.startedAt = none := by
      cases hstart : context.startedAt with
      | none => rfl
      | some time =>
        obtain ⟨first, hlast, -⟩ := (hstarted time).1 hstart
        exact absurd ⟨first, hlast⟩ hnever
    rw [Context.elapsed, hnone]
    rfl

/-- Between its start and its end an invocation waits for a sleep and for the report of another one,
which fails and is left behind. -/
theorem success_reports_time_since_start_beside_another :
    let lifecycle : Lifecycle :=
      ⟨CommandTree.ofCommand Command.sample, ⟨"0.3.1", 40, .stalling 900⟩⟩
    let calls := [HookCall.make "a" ["version"] [] Flags.empty, .make "b" ["docker"] [] Flags.empty,
      .start "a", .sleep 70, .start "b", .fail "b" "port in use", .success "a", .sleep 5000]
    lifecycle.dispatcher.version ≠ Dispatcher.devVersion ∧ calls[6]? = some (.success "a")
      ∧ ∃ event, (start.after Command.sample lifecycle calls).outbox.entered[1]? = some event
        ∧ event.durationMs = some 110 := by
  intro lifecycle calls
  have hversion : lifecycle.dispatcher.version ≠ Dispatcher.devVersion := by decide
  have hheld : (foundAt Command.sample lifecycle calls 6).context? "a"
      = some ⟨1, [], Flags.empty, some 0⟩ := by
    decide +kernel
  have hlast : LastStart Command.sample lifecycle.tree calls "a" 2 6 := by
    refine ⟨by decide, rfl, ?_⟩
    intro i call hlt hi hcall
    obtain rfl | rfl | rfl : i = 3 ∨ i = 4 ∨ i = 5 := by omega
    all_goals
      cases hcall
      exact ⟨by decide, id⟩
  obtain ⟨event, time, hspawned, -, hduration, -, hstarted, -⟩ :=
    success_reports_time_since_start Command.sample lifecycle hversion calls 6 "a" _ rfl hheld
  have htime : time = 110 := by
    rw [(hstarted 2 hlast).1]
    decide +kernel
  have hnumber : (start.endings Command.sample lifecycle (calls.take 6)).length = 1 := by
    decide +kernel
  have hqueued : (foundAt Command.sample lifecycle calls 8).outbox.queued = [] := by
    decide +kernel
  have hentered := hspawned 8 (by decide)
  dsimp only at hentered
  rw [hnumber, hqueued, List.append_nil] at hentered
  refine ⟨hversion, rfl, event, hentered, ?_⟩
  rw [hduration, htime]
  rfl

end Session

end CommandTelemetry
