import CommandTelemetry.Dispatch.EventLoop
import CommandTelemetry.Proofs.Dispatch.OutboxSameTheorems
import Mathlib.Data.List.Nodup

/-!
# Turns and jumps of the event loop

What one turn of a task and one jump of the clock do, and what a whole wait comes to.

* `EventLoop.Steady` is what holds of a loop after every turn and every jump of its clock;
* `EventLoop.Steady.outbox_block` says that the effect of a wait on the outbox hangs on nothing but
  the time at which it is over.
-/

namespace CommandTelemetry

namespace EventLoop

variable {loop : EventLoop} {transport : Transport} {wait : Wait} {turn : Turn} {turns : List Turn}

/-! ## What every turn and every jump keep -/

/-- The numbers of the tasks, of each as often as the loop holds it. -/
def numbers (loop : EventLoop) : List Nat :=
  loop.ended.map (·.number) ++ loop.sleeping.map (·.number) ++ loop.ready.map Turn.number

/-- No timer that went off is still counted as running, and no task is held twice. -/
structure Steady (loop : EventLoop) : Prop where
  sleeping : ∀ task ∈ loop.sleeping, task.send.endsBy loop.now = false
  resumed : ∀ task, Turn.resume task ∈ loop.ready → task.send.due = some loop.now
  distinct : loop.numbers.Nodup
  spawned : ∀ number ∈ loop.numbers, number < loop.spawned

theorem steady_start : start.Steady where
  sleeping := fun _ h => by cases h
  resumed := fun _ h => by cases h
  distinct := List.nodup_nil
  spawned := fun _ h => by cases h

theorem Steady.spawn (h : loop.Steady) (event : Event) : (loop.spawn event).Steady := by
  have hnumbers : (loop.spawn event).numbers = loop.numbers ++ [loop.spawned] := by
    simp only [numbers, EventLoop.spawn, List.map_append, List.map_cons, List.map_nil, Turn.number,
      List.append_assoc]
  constructor
  · exact h.sleeping
  · intro task htask
    rcases List.mem_append.1 htask with htask | htask
    · exact h.resumed task htask
    · cases List.mem_singleton.1 htask
  · rw [hnumbers, List.nodup_append]
    refine ⟨h.distinct, List.pairwise_singleton _ _, ?_⟩
    intro number hnumber last hlast
    have hlt := h.spawned number hnumber
    rw [List.mem_singleton.1 hlast]
    omega
  · intro number hnumber
    rw [hnumbers] at hnumber
    show number < loop.spawned + 1
    rcases List.mem_append.1 hnumber with hnumber | hnumber
    · have hlt := h.spawned number hnumber
      omega
    · rw [List.mem_singleton.1 hnumber]
      omega

@[simp] theorem now_runTurn (transport : Transport) (turn : Turn) (turns : List Turn)
    (loop : EventLoop) : (loop.runTurn transport turn turns).now = loop.now := by
  cases turn with
  | start number event =>
    rw [runTurn]
    split <;> rfl
  | resume task => rfl

@[simp] theorem ready_runTurn (transport : Transport) (turn : Turn) (turns : List Turn)
    (loop : EventLoop) : (loop.runTurn transport turn turns).ready = turns := by
  cases turn with
  | start number event =>
    rw [runTurn]
    split <;> rfl
  | resume task => rfl

@[simp] theorem spawned_runTurn (transport : Transport) (turn : Turn) (turns : List Turn)
    (loop : EventLoop) : (loop.runTurn transport turn turns).spawned = loop.spawned := by
  cases turn with
  | start number event =>
    rw [runTurn]
    split <;> rfl
  | resume task => rfl

theorem numbers_runTurn (transport : Transport) (hready : loop.ready = turn :: turns) :
    (loop.runTurn transport turn turns).numbers.Perm loop.numbers := by
  rw [List.perm_iff_count]
  intro number
  unfold numbers
  rw [hready]
  cases turn with
  | start number event =>
    rw [runTurn]
    split
    all_goals
      simp only [List.map_append, List.map_cons, List.map_nil, List.count_append, List.count_cons,
        List.count_nil, Turn.number, SendTask.enter]
      omega
  | resume task =>
    simp only [runTurn, List.map_append, List.map_cons, List.map_nil, List.count_append,
      List.count_cons, List.count_nil, Turn.number]
    omega

theorem numbers_jump (time : Nat) (loop : EventLoop) :
    (loop.jump time).numbers.Perm loop.numbers := by
  have hsplit := (List.filter_append_perm (fun task => task.send.endsBy time) loop.sleeping).map
    (·.number)
  rw [List.perm_iff_count] at hsplit ⊢
  intro number
  have hcount := hsplit number
  simp only [numbers, jump, List.map_append, List.map_map, List.count_append] at hcount ⊢
  have hresume : (Turn.number ∘ Turn.resume) = (·.number) := rfl
  rw [hresume]
  omega

theorem Steady.runTurn (h : loop.Steady) (transport : Transport)
    (hready : loop.ready = turn :: turns) : (loop.runTurn transport turn turns).Steady := by
  have hnumbers := numbers_runTurn transport hready
  constructor
  · intro task htask
    rw [now_runTurn]
    cases turn with
    | start number event =>
      rw [EventLoop.runTurn] at htask
      split at htask
      · exact h.sleeping task htask
      · next hends =>
        -- a new timer is not due yet, for its send would have ended in its first turn
        rcases List.mem_append.1 htask with htask | htask
        · exact h.sleeping task htask
        · rw [List.mem_singleton.1 htask]
          exact eq_false_of_ne_true hends
    | resume task' => exact h.sleeping task htask
  · intro task htask
    rw [ready_runTurn] at htask
    rw [now_runTurn]
    apply h.resumed task
    rw [hready]
    exact List.mem_cons_of_mem _ htask
  · exact hnumbers.nodup_iff.2 h.distinct
  · intro number hnumber
    rw [spawned_runTurn]
    exact h.spawned number (hnumbers.mem_iff.1 hnumber)

theorem Steady.lt_due (h : loop.Steady) {task : SendTask} {due : Nat}
    (hmem : task ∈ loop.sleeping) (hdue : task.send.due = some due) : loop.now < due := by
  have hsleeping := h.sleeping task hmem
  simp only [Send.endsBy, hdue, Option.any_some, decide_eq_false_iff_not] at hsleeping
  omega

/-- The clock only jumps forward. -/
theorem Steady.lt_nextTimer (h : loop.Steady) {deadline : Nat} (hnow : loop.now < deadline) :
    loop.now < loop.nextTimer deadline := by
  rcases loop.nextTimer_eq_or_mem deadline with htime | ⟨task, hmem, hdue⟩
  · omega
  · exact h.lt_due hmem hdue

theorem Steady.jump (h : loop.Steady) (hready : loop.ready = []) (deadline : Nat) :
    (loop.jump (loop.nextTimer deadline)).Steady := by
  have hnumbers := numbers_jump (loop.nextTimer deadline) loop
  constructor
  · intro task htask
    have hends := (List.mem_filter.1 htask).2
    show task.send.endsBy (loop.nextTimer deadline) = false
    simpa using hends
  · intro task htask
    simp only [EventLoop.jump, hready, List.nil_append, List.mem_map, Turn.resume.injEq,
      exists_eq_right, List.mem_filter] at htask
    -- the timer went off by now, and no timer went off before
    cases hdue : task.send.due with
    | none =>
      rw [Send.endsBy, hdue] at htask
      cases htask.2
    | some due =>
      have hle := nextTimer_le_due htask.1 hdue deadline
      have hends := htask.2
      simp only [Send.endsBy, hdue, Option.any_some, decide_eq_true_eq] at hends
      exact congrArg some (Nat.le_antisymm hends hle)
  · exact hnumbers.nodup_iff.2 h.distinct
  · intro number hnumber
    exact h.spawned number (hnumbers.mem_iff.1 hnumber)

/-- A wait leaves a steady loop behind, and no clock goes back. -/
theorem Steady.block (h : loop.Steady) (transport : Transport) (wait : Wait) :
    (loop.block transport wait).2.Steady ∧ loop.now ≤ (loop.block transport wait).2.now := by
  fun_induction EventLoop.block transport wait loop with
  | case1 loop wakeup hpoll => exact ⟨h, Nat.le_refl _⟩
  | case2 loop hpoll turn turns hready ih =>
    have hturn := ih (h.runTurn transport hready)
    rw [now_runTurn] at hturn
    exact hturn
  | case3 loop hpoll hready ih =>
    have hjump := ih (h.jump hready wait.deadline)
    have hlt : loop.now < loop.nextTimer wait.deadline := h.lt_nextTimer (lt_deadline_of_poll hpoll)
    have hle : loop.nextTimer wait.deadline
        ≤ ((loop.jump (loop.nextTimer wait.deadline)).block transport wait).2.now := hjump.2
    exact ⟨hjump.1, by omega⟩

/-! ## What turns and jumps do to the outbox -/

/-- A turn changes nothing in what is there at a later time, once everything queued is entered. -/
theorem outbox_runTurn (transport : Transport) (hready : loop.ready = turn :: turns) {time : Nat}
    (htime : loop.now ≤ time) :
    (((loop.runTurn transport turn turns).outbox.enterQueued transport).advance time).Same
      ((loop.outbox.enterQueued transport).advance time) := by
  cases turn with
  | resume task =>
    -- the task counted as ended before its turn
    have hsame : (loop.runTurn transport (.resume task) turns).outbox = loop.outbox := by
      have hended : loop.ended ++ [task] ++ turns.filterMap Turn.task?
          = loop.ended ++ loop.ready.filterMap Turn.task? := by
        rw [hready, List.append_assoc]
        rfl
      have hqueued : turns.filterMap Turn.event? = loop.ready.filterMap Turn.event? := by
        rw [hready, List.filterMap_cons_none rfl]
      unfold outbox
      dsimp only [runTurn]
      rw [hqueued, hended]
    rw [hsame]
    exact Outbox.Same.refl _
  | start number event =>
    have hqueued : loop.outbox.queued = event :: turns.filterMap Turn.event? := by
      rw [outbox, hready]
      rfl
    have htasks : loop.ready.filterMap Turn.task? = turns.filterMap Turn.task? := by
      rw [hready, List.filterMap_cons_none rfl]
    rw [← Outbox.enterQueued_cons transport hqueued]
    rw [runTurn]
    split
    · next hends =>
      -- a send without delay has ended in its first turn
      have hlater : (loop.outbox.nextSend transport event).endsBy time = true :=
        Outbox.endsBy_of_le htime hends
      refine Outbox.Same.trans ?_ (Outbox.advance_ended transport hlater { loop.outbox with
        queued := turns.filterMap Turn.event?
        entered := loop.outbox.entered ++ [event] })
      refine (Outbox.Same.enterQueued ?_ transport).advance time
      refine ⟨rfl, rfl, rfl, ?_, rfl⟩
      let task := SendTask.enter number loop.now event (transport.answer loop.entered.length event)
      show ((loop.ended ++ [task] ++ turns.filterMap Turn.task?).map (·.send)).Perm
        ((loop.ended ++ loop.ready.filterMap Turn.task?).map (·.send) ++ [task].map (·.send))
      rw [htasks, ← List.map_append, List.append_assoc, List.append_assoc]
      exact (List.Perm.append_left _ List.perm_append_comm).map _
    · have hsleeping : (loop.sleeping ++ [SendTask.enter number loop.now event
          (transport.answer loop.entered.length event)]).map (·.send)
            = loop.outbox.running ++ [loop.outbox.nextSend transport event] :=
        List.map_append
      have hended : (loop.ended ++ turns.filterMap Turn.task?).map (·.send)
          = loop.outbox.ended := by
        rw [← htasks]
        rfl
      unfold outbox
      dsimp only
      rw [hsleeping, hended]
      exact Outbox.Same.refl _

/-- A jump of the clock with no task ready is a move of the outbox's clock. -/
theorem outbox_jump (hready : loop.ready = []) (time : Nat) :
    (loop.jump time).outbox = loop.outbox.advance time := by
  have hqueued : ((loop.sleeping.filter (·.send.endsBy time)).map Turn.resume).filterMap Turn.event?
      = [] := by
    rw [List.filterMap_map, List.filterMap_eq_nil_iff]
    exact fun _ _ => rfl
  have htasks : ((loop.sleeping.filter (·.send.endsBy time)).map Turn.resume).filterMap Turn.task?
      = loop.sleeping.filter (·.send.endsBy time) := by
    rw [List.filterMap_map]
    exact List.filterMap_some
  unfold outbox Outbox.advance
  dsimp only [jump]
  rw [hready, List.nil_append, hqueued, htasks, List.filter_map, List.filter_map,
    List.filterMap_nil, List.filterMap_nil, List.append_nil, List.map_append]
  rfl

/-- What a wait does hangs on nothing but the time at which it is over. -/
theorem Steady.outbox_block (h : loop.Steady) (transport : Transport) (wait : Wait) {time : Nat}
    (htime : (loop.block transport wait).2.now ≤ time) :
    (((loop.block transport wait).2.outbox.enterQueued transport).advance time).Same
      ((loop.outbox.enterQueued transport).advance time) := by
  fun_induction EventLoop.block transport wait loop with
  | case1 loop wakeup hpoll => exact Outbox.Same.refl _
  | case2 loop hpoll turn turns hready ih =>
    have hturn := h.runTurn transport hready
    have hnow : loop.now ≤ time := by
      have hle := (hturn.block transport wait).2
      rw [now_runTurn] at hle
      omega
    exact (ih hturn htime).trans (outbox_runTurn transport hready hnow)
  | case3 loop hpoll hready ih =>
    have hjump := h.jump hready wait.deadline
    have hnow : loop.nextTimer wait.deadline ≤ time :=
      Nat.le_trans (hjump.block transport wait).2 htime
    have hqueued : loop.outbox.queued = [] := by rw [outbox, hready]; rfl
    refine (ih hjump htime).trans ?_
    rw [outbox_jump hready, Outbox.enterQueued_of_queued_nil hqueued]
    have hadvanced : (loop.outbox.advance (loop.nextTimer wait.deadline)).queued = [] := hqueued
    rw [Outbox.enterQueued_of_queued_nil hadvanced]
    exact Outbox.advance_advance hnow _

end EventLoop

end CommandTelemetry
