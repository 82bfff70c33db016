import CommandTelemetry.Proofs.Dispatch.EventLoopTurnTheorems

/-!
# Waits of the event loop

When a wait of the caller is over, and why.

* `EventLoop.Steady.block_timer` says it of a sleep;
* `EventLoop.Awaits` follows the task that a caller waits for through every turn and every jump, and
  `EventLoop.Awaits.block` says when and why the wait for it is over.
-/

namespace CommandTelemetry

namespace EventLoop

variable {loop : EventLoop} {transport : Transport} {wait : Wait} {turn : Turn} {turns : List Turn}

theorem poll_of_no_signal (h : wait.awaited.bind loop.signal? = none) :
    loop.poll wait = if wait.deadline ≤ loop.now then some .elapsed else none := by
  rw [poll, h]

/-- A sleep is over at its time, and by then everything queued was entered. -/
theorem Steady.block_timer (h : loop.Steady) (transport : Transport) {deadline : Nat}
    (hnow : loop.now < deadline ∨ loop.now = deadline ∧ loop.outbox.queued = []) :
    (loop.block transport ⟨none, deadline⟩).2.now = deadline
      ∧ (loop.block transport ⟨none, deadline⟩).2.outbox.queued = [] := by
  fun_induction EventLoop.block transport ⟨none, deadline⟩ loop with
  | case1 loop wakeup hpoll =>
    rcases hnow with hlt | hdone
    · rw [poll_of_no_signal rfl, if_neg (by dsimp only; omega)] at hpoll
      cases hpoll
    · exact hdone
  | case2 loop hpoll turn turns hready ih =>
    have hlt : loop.now < deadline := lt_deadline_of_poll hpoll
    exact ih (h.runTurn transport hready) (.inl (by rw [now_runTurn]; exact hlt))
  | case3 loop hpoll hready ih =>
    apply ih (h.jump hready deadline)
    rcases Nat.lt_or_eq_of_le (loop.nextTimer_le deadline) with hlt | heq
    · exact .inl hlt
    · refine .inr ⟨heq, ?_⟩
      rw [outbox_jump hready, Outbox.advance, outbox, hready]
      rfl

/-- When and why the wait for a task is over. -/
def overBy (task : SendTask) (deadline : Nat) : Nat × Wakeup :=
  match task.send.due with
  | some due =>
    if due < deadline then (due, .signalled task.result.signal) else (deadline, .elapsed)
  | none => (deadline, .elapsed)

theorem overBy_of_lt {task : SendTask} {deadline due : Nat} (hdue : task.send.due = some due)
    (h : due < deadline) : overBy task deadline = (due, .signalled task.result.signal) := by
  rw [overBy, hdue]
  exact if_pos h

theorem overBy_of_le {task : SendTask} {deadline : Nat}
    (h : ∀ due, task.send.due = some due → deadline ≤ due) :
    overBy task deadline = (deadline, .elapsed) := by
  unfold overBy
  split
  · next due hdue =>
    have hle := h due hdue
    exact if_neg (by omega)
  · rfl

theorem Steady.signal?_of_ended (h : loop.Steady) {task : SendTask} (hmem : task ∈ loop.ended) :
    loop.signal? task.number = some task.result.signal := by
  have hdistinct : (loop.ended.map (·.number)).Nodup :=
    (List.nodup_append.1 (List.nodup_append.1 h.distinct).1).1
  unfold signal?
  cases hfind : loop.ended.find? (·.number = task.number) with
  | none =>
    have hnone := List.find?_eq_none.1 hfind task hmem
    simp at hnone
  | some found =>
    have hnumber := List.find?_some hfind
    have hsame : found = task := List.inj_on_of_nodup_map hdistinct
      (List.mem_of_find?_eq_some hfind) hmem (by simpa using hnumber)
    rw [hsame]
    rfl

theorem Steady.signal?_of_not_ended (h : loop.Steady) {number : Nat}
    (hmem : number ∈ loop.sleeping.map (·.number) ++ loop.ready.map Turn.number) :
    loop.signal? number = none := by
  have hdistinct := h.distinct
  rw [numbers, List.append_assoc, List.nodup_append] at hdistinct
  rw [signal?, Option.map_eq_none_iff, List.find?_eq_none]
  intro task htask hnumber
  rw [decide_eq_true_eq] at hnumber
  exact hdistinct.2.2 task.number (List.mem_map_of_mem htask) number hmem hnumber

/-- The task that a caller waits for: it is the last to be entered, sleeps, is ready to end, or has
ended just now. -/
inductive Awaits (transport : Transport) (deadline : Nat) (event : Event) (task : SendTask)
    (loop : EventLoop) : Prop where
  | queued (turns : List Turn) (hready : loop.ready = turns ++ [.start task.number event])
      (henter : SendTask.enter task.number loop.now event (transport.answer
        (loop.entered.length + (turns.filterMap Turn.event?).length) event) = task)
      (hnow : loop.now < deadline)
  | sleeping (hqueued : loop.outbox.queued = []) (hmem : task ∈ loop.sleeping)
      (hnow : loop.now ≤ deadline)
  | resumed (hqueued : loop.outbox.queued = []) (hmem : Turn.resume task ∈ loop.ready)
      (hnow : loop.now ≤ deadline)
  | ended (hqueued : loop.outbox.queued = []) (hmem : task ∈ loop.ended)
      (hdue : task.send.due = some loop.now) (hnow : loop.now < deadline)

namespace Awaits

variable {deadline : Nat} {event : Event} {task : SendTask}

/-- A task that has not ended gives no signal. -/
theorem poll_eq (hsteady : loop.Steady)
    (hmem : task.number ∈ loop.sleeping.map (·.number) ++ loop.ready.map Turn.number) :
    loop.poll ⟨some task.number, deadline⟩
      = if deadline ≤ loop.now then some .elapsed else none :=
  poll_of_no_signal (hsteady.signal?_of_not_ended hmem)

theorem number_mem_of_sleeping (hmem : task ∈ loop.sleeping) :
    task.number ∈ loop.sleeping.map (·.number) ++ loop.ready.map Turn.number :=
  List.mem_append_left _ (List.mem_map_of_mem hmem)

theorem number_mem_of_resumed (hmem : Turn.resume task ∈ loop.ready) :
    task.number ∈ loop.sleeping.map (·.number) ++ loop.ready.map Turn.number :=
  List.mem_append_right _ (List.mem_map.2 ⟨_, hmem, rfl⟩)

/-- The wait is over at the right time and for the right reason. -/
theorem eq_overBy (h : loop.Awaits transport deadline event task) (hsteady : loop.Steady)
    {wakeup : Wakeup} (hpoll : loop.poll ⟨some task.number, deadline⟩ = some wakeup) :
    loop.outbox.queued = [] ∧ (loop.now, wakeup) = overBy task deadline := by
  cases h with
  | queued turns hready henter hnow =>
    have hmem : task.number ∈ loop.sleeping.map (·.number) ++ loop.ready.map Turn.number := by
      rw [hready, List.map_append]
      exact List.mem_append_right _ (List.mem_append_right _ List.mem_cons_self)
    rw [poll_eq hsteady hmem, if_neg (by omega)] at hpoll
    cases hpoll
  | sleeping hqueued hmem hnow =>
    rw [poll_eq hsteady (number_mem_of_sleeping hmem)] at hpoll
    split at hpoll
    · next hle =>
      -- the timer of the task is still running at the deadline
      have htime : loop.now = deadline := by omega
      cases hpoll
      rw [overBy_of_le, htime]
      · exact ⟨hqueued, rfl⟩
      · intro due hdue
        have hlt := hsteady.lt_due hmem hdue
        omega
    · cases hpoll
  | resumed hqueued hmem hnow =>
    rw [poll_eq hsteady (number_mem_of_resumed hmem)] at hpoll
    split at hpoll
    · next hle =>
      -- the timer of the task goes off at the deadline, and the caller goes on first
      have htime : loop.now = deadline := by omega
      cases hpoll
      rw [overBy_of_le, htime]
      · exact ⟨hqueued, rfl⟩
      · intro due hdue
        rw [hsteady.resumed task hmem] at hdue
        cases hdue
        omega
    · cases hpoll
  | ended hqueued hmem hdue hnow =>
    have hsignal : (some task.number).bind loop.signal? = some task.result.signal :=
      hsteady.signal?_of_ended hmem
    rw [poll, hsignal] at hpoll
    cases hpoll
    rw [overBy_of_lt hdue hnow]
    exact ⟨hqueued, rfl⟩

/-- When nothing is queued, only second turns are left. -/
theorem resume_of_queued_nil (hqueued : loop.outbox.queued = [])
    (hready : loop.ready = turn :: turns) :
    (∃ task, turn = .resume task) ∧ turns.filterMap Turn.event? = [] := by
  rw [outbox, hready] at hqueued
  cases turn with
  | start number event => cases hqueued
  | resume task => exact ⟨⟨task, rfl⟩, hqueued⟩

theorem queued_runTurn (transport : Transport) (turn : Turn) (turns : List Turn)
    (loop : EventLoop) :
    (loop.runTurn transport turn turns).outbox.queued = turns.filterMap Turn.event? := by
  rw [outbox, ready_runTurn]

/-- A send that ends as it is entered is due at that very time. -/
theorem due_of_endsBy_enter {now : Nat} {answer : Answer}
    (h : (Send.enter now event answer).endsBy now = true) :
    (Send.enter now event answer).due = some now := by
  cases hdelay : answer.delay with
  | none =>
    rw [Send.endsBy, Send.enter, hdelay] at h
    cases h
  | some delay =>
    simp only [Send.endsBy, Send.enter, hdelay, Option.map_some, Option.any_some,
      decide_eq_true_eq] at h ⊢
    rw [Option.some.injEq]
    omega

/-- The last first turn enters the send of the awaited task. -/
theorem runTurn_last
    (henter : SendTask.enter task.number loop.now event
      (transport.answer loop.entered.length event) = task) (hnow : loop.now < deadline) :
    (loop.runTurn transport (.start task.number event) []).Awaits transport deadline event
      task := by
  cases hends : task.send.endsBy loop.now with
  | true =>
    have hturn : loop.runTurn transport (.start task.number event) []
        = { loop with
            ready := []
            ended := loop.ended ++ [task]
            entered := loop.entered ++ [event] } := by
      rw [EventLoop.runTurn, henter, if_pos hends]
    have hdue : task.send.due = some loop.now := by
      rw [← henter] at hends ⊢
      exact due_of_endsBy_enter hends
    rw [hturn]
    exact .ended rfl List.mem_concat_self hdue hnow
  | false =>
    have hturn : loop.runTurn transport (.start task.number event) []
        = { loop with
            ready := []
            sleeping := loop.sleeping ++ [task]
            entered := loop.entered ++ [event] } := by
      rw [EventLoop.runTurn, henter, hends]
      rfl
    rw [hturn]
    exact .sleeping rfl List.mem_concat_self (Nat.le_of_lt hnow)

/-- A first turn before that of the awaited task enters one event more and leaves one less. -/
theorem entered_runTurn (transport : Transport) (turn : Turn) (turns before : List Turn)
    (loop : EventLoop) :
    (loop.runTurn transport turn turns).entered.length + (before.filterMap Turn.event?).length
      = loop.entered.length + ((turn :: before).filterMap Turn.event?).length := by
  cases turn with
  | start number event =>
    have hentered : (loop.runTurn transport (.start number event) turns).entered
        = loop.entered ++ [event] := by
      rw [EventLoop.runTurn]
      split <;> rfl
    have hevents : (Turn.start number event :: before).filterMap Turn.event?
        = event :: before.filterMap Turn.event? := rfl
    rw [hentered, hevents, List.length_append, List.length_singleton, List.length_cons]
    omega
  | resume other =>
    rw [List.filterMap_cons_none rfl]
    rfl

/-- A turn brings the awaited task on its way, or leaves it where it is. -/
theorem runTurn (h : loop.Awaits transport deadline event task) (hsteady : loop.Steady)
    (hpoll : loop.poll ⟨some task.number, deadline⟩ = none) (hready : loop.ready = turn :: turns) :
    (loop.runTurn transport turn turns).Awaits transport deadline event task := by
  have hlt : loop.now < deadline := lt_deadline_of_poll hpoll
  cases h with
  | queued before hlast henter hnow =>
    rw [hready] at hlast
    cases before with
    | nil =>
      obtain ⟨rfl, rfl⟩ := List.cons_eq_cons.1 hlast
      exact runTurn_last henter hlt
    | cons first before =>
      obtain ⟨rfl, rfl⟩ := List.cons_eq_cons.1 hlast
      refine .queued before (ready_runTurn _ _ _ _) ?_ (by rw [now_runTurn]; exact hlt)
      rw [now_runTurn, entered_runTurn]
      exact henter
  | sleeping hqueued hmem hnow =>
    obtain ⟨⟨other, rfl⟩, hrest⟩ := resume_of_queued_nil hqueued hready
    exact .sleeping (by rw [queued_runTurn, hrest]) hmem hnow
  | resumed hqueued hmem hnow =>
    obtain ⟨⟨other, rfl⟩, hrest⟩ := resume_of_queued_nil hqueued hready
    have hnothing : (loop.runTurn transport (.resume other) turns).outbox.queued = [] := by
      rw [queued_runTurn, hrest]
    have hdue := hsteady.resumed task hmem
    rw [hready] at hmem
    rcases List.mem_cons.1 hmem with hfirst | hmem
    · cases hfirst
      exact .ended hnothing List.mem_concat_self hdue hlt
    · exact .resumed hnothing hmem hnow
  | ended hqueued hmem hdue hnow =>
    have hsignal : (some task.number).bind loop.signal? = some task.result.signal :=
      hsteady.signal?_of_ended hmem
    rw [poll, hsignal] at hpoll
    cases hpoll

/-- A jump of the clock leaves the awaited task asleep, or makes it ready to end. -/
theorem jump (h : loop.Awaits transport deadline event task) (hsteady : loop.Steady)
    (hpoll : loop.poll ⟨some task.number, deadline⟩ = none) (hready : loop.ready = []) :
    (loop.jump (loop.nextTimer deadline)).Awaits transport deadline event task := by
  have hle := loop.nextTimer_le deadline
  have hqueued : (loop.jump (loop.nextTimer deadline)).outbox.queued = [] := by
    rw [outbox_jump hready, Outbox.advance, outbox, hready]
    rfl
  cases h with
  | queued before hlast henter hnow =>
    rw [hready] at hlast
    cases before <;> cases hlast
  | sleeping _ hmem hnow =>
    cases hends : task.send.endsBy (loop.nextTimer deadline) with
    | false =>
      refine .sleeping hqueued (List.mem_filter.2 ⟨hmem, ?_⟩) hle
      rw [hends]
      rfl
    | true =>
      refine .resumed hqueued (List.mem_append_right _ ?_) hle
      exact List.mem_map_of_mem (List.mem_filter.2 ⟨hmem, hends⟩)
  | resumed _ hmem hnow =>
    rw [hready] at hmem
    cases hmem
  | ended _ hmem hdue hnow =>
    have hsignal : (some task.number).bind loop.signal? = some task.result.signal :=
      hsteady.signal?_of_ended hmem
    rw [poll, hsignal] at hpoll
    cases hpoll

/-- The wait for a task is over when its timer or the caller's goes off, whichever is first, and by
then everything queued was entered. -/
theorem block (h : loop.Awaits transport deadline event task) (hsteady : loop.Steady) :
    (loop.block transport ⟨some task.number, deadline⟩).2.outbox.queued = []
      ∧ ((loop.block transport ⟨some task.number, deadline⟩).2.now,
          (loop.block transport ⟨some task.number, deadline⟩).1) = overBy task deadline := by
  fun_induction EventLoop.block transport ⟨some task.number, deadline⟩ loop with
  | case1 loop wakeup hpoll => exact h.eq_overBy hsteady hpoll
  | case2 loop hpoll turn turns hready ih =>
    exact ih (h.runTurn hsteady hpoll hready) (hsteady.runTurn transport hready)
  | case3 loop hpoll hready ih =>
    exact ih (h.jump hsteady hpoll hready) (hsteady.jump hready deadline)

end Awaits

end EventLoop

end CommandTelemetry
