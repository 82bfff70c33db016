import CommandTelemetry.Proofs.Dispatch.EventLoopWaitTheorems

/-!
# What the event loop does to the outbox

The turns of an event loop come to what a dispatcher does to its outbox at one stroke.

* `EventLoop.Steady.sleep` and `EventLoop.Steady.dispatch` say so of the calls of a caller;
* `EventLoop.steady_after` and `EventLoop.outbox_after` say so of every history.
-/

namespace CommandTelemetry

namespace EventLoop

variable {loop : EventLoop} {transport : Transport} {wait : Wait}

theorem block_of_poll {wakeup : Wakeup} (transport : Transport)
    (h : loop.poll wait = some wakeup) : loop.block transport wait = (wakeup, loop) := by
  rw [block]
  split
  · next _ hpoll =>
    rw [hpoll] at h
    cases h
    rfl
  · next hpoll =>
    rw [hpoll] at h
    cases h

/-- Moving the clock to where it stands ends nothing. -/
theorem Steady.advance_now (h : loop.Steady) : loop.outbox.advance loop.now = loop.outbox := by
  have hawake : ∀ send ∈ loop.outbox.running, send.endsBy loop.now = false := by
    intro send hsend
    obtain ⟨task, htask, rfl⟩ := List.mem_map.1 hsend
    exact h.sleeping task htask
  have hrunning : (loop.outbox.running.filter fun send => !send.endsBy loop.now)
      = loop.outbox.running := by
    rw [List.filter_eq_self]
    intro send hsend
    rw [hawake send hsend]
    rfl
  have hended : loop.outbox.running.filter (·.endsBy loop.now) = [] := by
    rw [List.filter_eq_nil_iff]
    intro send hsend
    rw [hawake send hsend]
    exact Bool.false_ne_true
  rw [Outbox.advance, hrunning, hended, List.append_nil]
  rfl

/-- A wait by whose end everything queued was entered is a wait of the outbox. -/
theorem Steady.outbox_same_wait (h : loop.Steady) (transport : Transport) (wait : Wait)
    {length : Nat} (htime : (loop.block transport wait).2.now = loop.now + length)
    (hqueued : (loop.block transport wait).2.outbox.queued = []) :
    (loop.block transport wait).2.outbox.Same (loop.outbox.wait transport length) := by
  have hsame := h.outbox_block transport wait (Nat.le_refl _)
  rw [Outbox.enterQueued_of_queued_nil hqueued, (h.block transport wait).1.advance_now, htime]
    at hsame
  exact hsame

/-- A sleep of the caller is a sleep of the outbox. -/
theorem Steady.sleep (h : loop.Steady) (transport : Transport) (length : Nat) :
    (loop.sleep transport length).Steady
      ∧ (loop.sleep transport length).outbox.Same (loop.outbox.sleep transport length) := by
  refine ⟨(h.block transport _).1, ?_⟩
  unfold EventLoop.sleep Outbox.sleep
  split
  · next hzero =>
    -- a sleep of no length is over before any task has a turn
    have hpoll : loop.poll ⟨none, loop.now + Timer.length length⟩ = some .elapsed := by
      rw [poll_of_no_signal rfl, hzero]
      exact if_pos (Nat.le_refl _)
    rw [block_of_poll transport hpoll]
    exact Outbox.Same.refl _
  · next hpositive =>
    have hlength : 0 < Timer.length length := by
      rw [Timer.length, Timer.longest]
      omega
    have hlater : loop.now < loop.now + Timer.length length := by omega
    obtain ⟨htime, hqueued⟩ := h.block_timer transport (.inl hlater)
    exact h.outbox_same_wait transport _ htime hqueued

theorem outbox_spawn (loop : EventLoop) (event : Event) :
    (loop.spawn event).outbox = loop.outbox.spawn event := by
  have htasks : (loop.ready ++ [Turn.start loop.spawned event]).filterMap Turn.task?
      = loop.ready.filterMap Turn.task? := by
    rw [List.filterMap_append]
    exact List.append_nil _
  unfold outbox
  dsimp only [spawn]
  rw [htasks, List.filterMap_append]
  rfl

theorem outcome_signalled (result : SendResult) :
    (Wakeup.signalled result.signal).outcome = Dispatcher.seen result := by
  cases result <;> rfl

/-- The wait of a dispatch with no time to wait is over before any task has a turn. -/
theorem Steady.block_spawn_of_zero (h : loop.Steady) (transport : Transport) (event : Event) :
    (loop.spawn event).block transport ⟨some loop.spawned, loop.now⟩
      = (.elapsed, loop.spawn event) := by
  have hmem : loop.spawned ∈ (loop.spawn event).sleeping.map (·.number)
      ++ (loop.spawn event).ready.map Turn.number := by
    refine List.mem_append_right _ (List.mem_map.2 ⟨_, List.mem_concat_self, rfl⟩)
  have hsignal : (some loop.spawned).bind (loop.spawn event).signal? = none :=
    (h.spawn event).signal?_of_not_ended hmem
  apply block_of_poll
  rw [poll_of_no_signal hsignal]
  exact if_pos (Nat.le_refl _)

/-- The wait of a dispatch is over when its send ends or when the ceiling is reached. -/
theorem Steady.block_spawn (h : loop.Steady) (dispatcher : Dispatcher) (event : Event)
    (hceiling : 0 < Timer.length dispatcher.ceiling) :
    let deadline := loop.now + Timer.length dispatcher.ceiling
    let ending := (loop.spawn event).block dispatcher.transport ⟨some loop.spawned, deadline⟩
    ending.2.outbox.queued = [] ∧ (ending.2.now, ending.1)
      = overBy (SendTask.enter loop.spawned loop.now event
          (dispatcher.nextAnswer loop.outbox event)) deadline := by
  intro deadline ending
  have hawaits : (loop.spawn event).Awaits dispatcher.transport deadline event
      (SendTask.enter loop.spawned loop.now event (dispatcher.nextAnswer loop.outbox event)) :=
    .queued loop.ready rfl rfl (Nat.lt_add_of_pos_right hceiling)
  exact hawaits.block (h.spawn event)

theorem overBy_enter_of_timely {dispatcher : Dispatcher} {answer : Answer} {length : Nat}
    (h : dispatcher.timelyDelay? answer = some length) (number now : Nat) (event : Event) :
    overBy (SendTask.enter number now event answer) (now + Timer.length dispatcher.ceiling)
      = (now + length, .signalled answer.result.signal) := by
  obtain ⟨⟨delay, hdelay, rfl⟩, hlt⟩ := Dispatcher.timelyDelay?_eq_some_iff.1 h
  have hdue : (SendTask.enter number now event answer).send.due
      = some (now + Timer.length delay) := by
    rw [SendTask.enter, Send.enter, hdelay]
    rfl
  exact overBy_of_lt hdue (by omega)

theorem overBy_enter_of_late {dispatcher : Dispatcher} {answer : Answer}
    (h : dispatcher.timelyDelay? answer = none) (number now : Nat) (event : Event) :
    overBy (SendTask.enter number now event answer) (now + Timer.length dispatcher.ceiling)
      = (now + Timer.length dispatcher.ceiling, .elapsed) := by
  apply overBy_of_le
  intro due hdue
  obtain ⟨delay, hdelay, rfl⟩ := Option.map_eq_some_iff.1 hdue
  have hle := Dispatcher.timelyDelay?_eq_none_iff.1 h delay hdelay
  omega

theorem dispatch_eq {dispatcher : Dispatcher} (hsent : dispatcher.isSuppressed = false)
    (report : Report) (loop : EventLoop) :
    loop.dispatch dispatcher report
      = (((loop.spawn (Event.ofReport report dispatcher.version)).block dispatcher.transport
            ⟨some loop.spawned, loop.now + Timer.length dispatcher.ceiling⟩).1.outcome,
          ((loop.spawn (Event.ofReport report dispatcher.version)).block dispatcher.transport
            ⟨some loop.spawned, loop.now + Timer.length dispatcher.ceiling⟩).2) := by
  rw [dispatch, hsent, if_neg Bool.false_ne_true]

/-- A dispatch on the loop is a dispatch of the dispatcher. -/
theorem Steady.dispatch (h : loop.Steady) (dispatcher : Dispatcher) (report : Report) :
    (loop.dispatch dispatcher report).2.Steady
      ∧ (loop.dispatch dispatcher report).1 = (dispatcher.dispatch report loop.outbox).1
      ∧ (loop.dispatch dispatcher report).2.outbox.Same
          (dispatcher.dispatch report loop.outbox).2 := by
  cases hsent : dispatcher.isSuppressed with
  | true =>
    rw [EventLoop.dispatch, Dispatcher.dispatch, if_pos hsent, if_pos hsent]
    exact ⟨h, rfl, Outbox.Same.refl _⟩
  | false =>
    have hspawn := h.spawn (Event.ofReport report dispatcher.version)
    have hwait := h.block_spawn dispatcher (Event.ofReport report dispatcher.version)
    rw [dispatch_eq hsent]
    refine ⟨(hspawn.block _ _).1, ?_⟩
    cases hdelay : dispatcher.timelyDelay?
        (dispatcher.nextAnswer loop.outbox (Event.ofReport report dispatcher.version)) with
    | some length =>
      have hlt := (Dispatcher.timelyDelay?_eq_some_iff.1 hdelay).2
      obtain ⟨hqueued, hover⟩ := hwait (Nat.zero_lt_of_lt hlt)
      rw [overBy_enter_of_timely hdelay, Prod.mk.injEq] at hover
      rw [Dispatcher.dispatch_of_timely hsent hdelay, ← outbox_spawn, hover.2, outcome_signalled]
      exact ⟨rfl, hspawn.outbox_same_wait _ _ hover.1 hqueued⟩
    | none =>
      rw [Dispatcher.dispatch_of_late hsent hdelay, ← outbox_spawn]
      rcases Nat.eq_zero_or_pos dispatcher.ceiling with hzero | hpositive
      · -- no time to wait: the caller goes on before any task has a turn
        have hblock := h.block_spawn_of_zero dispatcher.transport
          (Event.ofReport report dispatcher.version)
        rw [hzero]
        dsimp only
        rw [show loop.now + Timer.length 0 = loop.now from rfl, hblock]
        exact ⟨rfl, Outbox.Same.refl _⟩
      · have hceiling : 0 < Timer.length dispatcher.ceiling := by
          rw [Timer.length, Timer.longest]
          omega
        obtain ⟨hqueued, hover⟩ := hwait hceiling
        rw [overBy_enter_of_late hdelay, Prod.mk.injEq] at hover
        rw [hover.2, Outbox.sleep, if_neg (Nat.ne_of_gt hpositive)]
        exact ⟨rfl, hspawn.outbox_same_wait _ _ hover.1 hqueued⟩

/-- A call on the loop is a call of the dispatcher, from any outbox that is the same. -/
theorem Steady.step (h : loop.Steady) {outbox : Outbox} (hsame : loop.outbox.Same outbox)
    (dispatcher : Dispatcher) (call : DispatchCall) :
    (loop.step dispatcher call).2.Steady
      ∧ (loop.step dispatcher call).1 = (dispatcher.step outbox call).outcome
      ∧ (loop.step dispatcher call).2.outbox.Same (dispatcher.step outbox call).outbox := by
  have hagrees := Dispatcher.step_same hsame dispatcher call
  cases call with
  | dispatch report =>
    obtain ⟨hsteady, houtcome, houtbox⟩ := h.dispatch dispatcher report
    exact ⟨hsteady, (congrArg some houtcome).trans hagrees.1, houtbox.trans hagrees.2⟩
  | sleep length =>
    obtain ⟨hsteady, houtbox⟩ := h.sleep dispatcher.transport length
    exact ⟨hsteady, rfl, houtbox.trans hagrees.2⟩

/-- After the same calls a loop has come to the outbox of the dispatcher. -/
theorem Steady.after (h : loop.Steady) {outbox : Outbox} (hsame : loop.outbox.Same outbox)
    (dispatcher : Dispatcher) (calls : List DispatchCall) :
    (loop.after dispatcher calls).Steady
      ∧ (loop.after dispatcher calls).outbox.Same (dispatcher.after outbox calls) := by
  induction calls generalizing loop outbox with
  | nil => exact ⟨h, hsame⟩
  | cons call calls ih =>
    obtain ⟨hsteady, -, houtbox⟩ := h.step hsame dispatcher call
    exact ih hsteady houtbox

theorem steady_after (dispatcher : Dispatcher) (calls : List DispatchCall) :
    (start.after dispatcher calls).Steady :=
  (steady_start.after (Outbox.Same.refl _) dispatcher calls).1

theorem outbox_after (dispatcher : Dispatcher) (calls : List DispatchCall) :
    (start.after dispatcher calls).outbox.Same (dispatcher.after Outbox.start calls) :=
  (steady_start.after (Outbox.Same.refl Outbox.start) dispatcher calls).2

end EventLoop

end CommandTelemetry
