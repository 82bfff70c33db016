import CommandTelemetry.Dispatch.History

/-!
# The event loop

The thread on which a caller and its sends take turns. The task of a send is entered in its first
turn, sleeps until its timer goes off, and ends in its second turn. While the caller waits, tasks
have their turns in the order in which they became ready, and the clock jumps to the next timer when
none is ready. A caller whose wait is over goes on before every task.

* `EventLoop.poll` is what a waiting caller looks for, `EventLoop.runTurn` what one turn does, and
  `EventLoop.jump` what becomes ready when the clock moves;
* `EventLoop.block` is one wait of the caller, and ends because every turn and every jump lowers
  `EventLoop.load`;
* `EventLoop.dispatch` and `EventLoop.sleep` are the calls of a caller, `EventLoop.after` a whole
  history of them;
* `EventLoop.outbox` is what the sends have come to, without regard to whose turn it is.
-/

namespace CommandTelemetry

/-- What comes out of the channel over which a task tells its caller how its send ended. -/
inductive Signal where
  /-- Whether the event was taken. -/
  | sent (delivered : Bool)
  /-- The task ended without saying so. -/
  | closed
deriving DecidableEq, Repr

namespace SendResult

/-- What a task that ends in this way leaves in its channel. -/
def signal : SendResult → Signal
  | .accepted => .sent true
  | .failed => .sent false
  | .died => .closed

end SendResult

/-- A task whose send was entered. -/
structure SendTask where
  /-- Tasks are numbered in the order in which they were spawned. -/
  number : Nat
  send : Send
  result : SendResult
deriving DecidableEq

/-- The task of a send that is entered now. -/
def SendTask.enter (number now : Nat) (event : Event) (answer : Answer) : SendTask :=
  ⟨number, Send.enter now event answer, answer.result⟩

/-- A turn that a task can have. -/
inductive Turn where
  /-- The first one, in which its send is entered. -/
  | start (number : Nat) (event : Event)
  /-- The one after its timer went off, in which its send ends. -/
  | resume (task : SendTask)
deriving DecidableEq

namespace Turn

/-- The task whose turn it is. -/
def number : Turn → Nat
  | .start number _ => number
  | .resume task => task.number

/-- The event that is entered in a first turn. -/
def event? : Turn → Option Event
  | .start _ event => some event
  | .resume _ => none

/-- The task that ends in a second turn. -/
def task? : Turn → Option SendTask
  | .start _ _ => none
  | .resume task => some task

/-- How much a turn can still set off: a first turn may start a timer, and that another turn. -/
def weight : Turn → Nat
  | .start _ _ => 3
  | .resume _ => 1

/-- How much turns can still set off together. -/
def weights : List Turn → Nat
  | [] => 0
  | turn :: turns => turn.weight + weights turns

theorem weights_resume (tasks : List SendTask) : weights (tasks.map .resume) = tasks.length := by
  induction tasks with
  | nil => rfl
  | cons task tasks ih => rw [List.map_cons, weights, weight, ih, List.length_cons, Nat.add_comm]

end Turn

/-- What a caller waits for: a time, or before that the signal of one task. -/
structure Wait where
  awaited : Option Nat
  deadline : Nat

/-- Why a wait was over. -/
inductive Wakeup where
  | signalled (signal : Signal)
  /-- The time came first. -/
  | elapsed
deriving DecidableEq, Repr

namespace Wakeup

/-- What the caller of a dispatch makes of the end of its wait. -/
def outcome : Wakeup → DispatchOutcome
  | .signalled (.sent true) => .delivered
  | .signalled (.sent false) => .failed
  | .signalled .closed => .failed
  | .elapsed => .timedOut

end Wakeup

/-- The caller's thread, with its clock in milliseconds. -/
structure EventLoop where
  now : Nat
  /-- How many tasks were spawned. -/
  spawned : Nat
  /-- The turns of the tasks that are ready, in order. -/
  ready : List Turn
  /-- The tasks whose timers are running, in the order in which these were started. -/
  sleeping : List SendTask
  /-- The tasks that have ended, in order. -/
  ended : List SendTask
  /-- All events that were entered, in order. -/
  entered : List Event
deriving DecidableEq

namespace EventLoop

/-- Nothing was spawned yet. -/
def start : EventLoop := ⟨0, 0, [], [], [], []⟩

/-- One more task is ready for its first turn. -/
def spawn (loop : EventLoop) (event : Event) : EventLoop :=
  { loop with
    spawned := loop.spawned + 1
    ready := loop.ready ++ [.start loop.spawned event] }

/-- What is in the channel of a task. -/
def signal? (loop : EventLoop) (number : Nat) : Option Signal :=
  (loop.ended.find? (·.number = number)).map (·.result.signal)

/-- Whether a wait is over: the caller looks into the channel first, and then at the clock. -/
def poll (wait : Wait) (loop : EventLoop) : Option Wakeup :=
  match wait.awaited.bind loop.signal? with
  | some signal => some (.signalled signal)
  | none => if wait.deadline ≤ loop.now then some .elapsed else none

/-- One turn of a task, while these turns remain. A send without delay ends in the turn in which it
is entered. -/
def runTurn (transport : Transport) (turn : Turn) (turns : List Turn) (loop : EventLoop) :
    EventLoop :=
  match turn with
  | .start number event =>
    let answer := transport.answer loop.entered.length event
    let task := SendTask.enter number loop.now event answer
    let entered := loop.entered ++ [event]
    if task.send.endsBy loop.now then
      { loop with ready := turns, ended := loop.ended ++ [task], entered }
    else { loop with ready := turns, sleeping := loop.sleeping ++ [task], entered }
  | .resume task => { loop with ready := turns, ended := loop.ended ++ [task] }

/-- The time of the first timer, of the tasks' or the caller's. -/
def nextTimer (loop : EventLoop) (deadline : Nat) : Nat :=
  match (loop.sleeping.filterMap (·.send.due)).min? with
  | some time => min time deadline
  | none => deadline

/-- The clock jumps, and every task whose timer goes off is ready for its next turn. -/
def jump (time : Nat) (loop : EventLoop) : EventLoop :=
  { loop with
    now := time
    ready := loop.ready ++ (loop.sleeping.filter (·.send.endsBy time)).map .resume
    sleeping := loop.sleeping.filter fun task => !task.send.endsBy time }

/-! ## Every wait ends -/

/-- How many turns and jumps are still possible before a time. -/
def load (deadline : Nat) (loop : EventLoop) : Nat :=
  Turn.weights loop.ready + 2 * loop.sleeping.length
    + if loop.now < deadline then 1 else 0

theorem load_runTurn_lt (transport : Transport) (deadline : Nat) {loop : EventLoop} {turn : Turn}
    {turns : List Turn} (h : loop.ready = turn :: turns) :
    (loop.runTurn transport turn turns).load deadline < loop.load deadline := by
  unfold load
  rw [h, Turn.weights]
  cases turn with
  | start number event =>
    rw [runTurn, Turn.weight]
    split
    · dsimp only
      omega
    · dsimp only
      rw [List.length_append, List.length_singleton]
      omega
  | resume task =>
    rw [runTurn, Turn.weight]
    dsimp only
    omega

theorem nextTimer_le (loop : EventLoop) (deadline : Nat) : loop.nextTimer deadline ≤ deadline := by
  unfold nextTimer
  split
  · exact Nat.min_le_right _ _
  · exact Nat.le_refl _

theorem nextTimer_le_due {loop : EventLoop} {task : SendTask} {due : Nat}
    (hmem : task ∈ loop.sleeping) (hdue : task.send.due = some due) (deadline : Nat) :
    loop.nextTimer deadline ≤ due := by
  have hdues : due ∈ loop.sleeping.filterMap (·.send.due) := List.mem_filterMap.2 ⟨task, hmem, hdue⟩
  unfold nextTimer
  split
  · next time hmin =>
    have hle : time ≤ due := (List.min?_eq_some_iff.1 hmin).2 due hdues
    exact Nat.le_trans (Nat.min_le_left _ _) hle
  · next hnone =>
    rw [List.min?_eq_none_iff.1 hnone] at hdues
    cases hdues

/-- The next timer is the caller's own, or that of a task which becomes ready by it. -/
theorem nextTimer_eq_or_mem (loop : EventLoop) (deadline : Nat) :
    loop.nextTimer deadline = deadline
      ∨ ∃ task ∈ loop.sleeping, task.send.due = some (loop.nextTimer deadline) := by
  unfold nextTimer
  split
  · next time hmin =>
    rcases Nat.le_total time deadline with hle | hle
    · rw [Nat.min_eq_left hle]
      exact .inr (List.mem_filterMap.1 (List.min?_eq_some_iff.1 hmin).1)
    · rw [Nat.min_eq_right hle]
      exact .inl rfl
  · exact .inl rfl

theorem load_jump_lt {deadline : Nat} {loop : EventLoop} (hready : loop.ready = [])
    (hnow : loop.now < deadline) :
    (loop.jump (loop.nextTimer deadline)).load deadline < loop.load deadline := by
  have hsplit := (List.filter_append_perm
    (fun task => task.send.endsBy (loop.nextTimer deadline)) loop.sleeping).length_eq
  rw [List.length_append] at hsplit
  unfold load
  rw [jump, hready, List.nil_append, Turn.weights_resume, Turn.weights, if_pos hnow]
  dsimp only
  rcases loop.nextTimer_eq_or_mem deadline with htime | ⟨task, hmem, hdue⟩
  · -- the caller's own timer: no time is left before the deadline
    rw [if_neg (by omega)]
    omega
  · -- the timer of a task: one task less is sleeping
    have hfired : 0 < (loop.sleeping.filter
        (fun task => task.send.endsBy (loop.nextTimer deadline))).length := by
      apply List.length_pos_of_mem (a := task)
      rw [List.mem_filter]
      exact ⟨hmem, by simp [Send.endsBy, hdue]⟩
    split <;> omega

/-- A wait that is not over has not reached its time. -/
theorem lt_deadline_of_poll {wait : Wait} {loop : EventLoop} (h : loop.poll wait = none) :
    loop.now < wait.deadline := by
  unfold poll at h
  split at h
  · cases h
  · split at h
    · cases h
    · omega

/-! ## Waits and calls -/

/-- The caller waits. As long as its wait is not over, the next task has its turn, or the clock
jumps because no task is ready. -/
def block (transport : Transport) (wait : Wait) (loop : EventLoop) : Wakeup × EventLoop :=
  match _hpoll : loop.poll wait with
  | some wakeup => (wakeup, loop)
  | none => match _hready : loop.ready with
    | turn :: turns =>
      block transport wait (loop.runTurn transport turn turns)
    | [] => block transport wait (loop.jump (loop.nextTimer wait.deadline))
termination_by loop.load wait.deadline
decreasing_by
  · exact load_runTurn_lt transport wait.deadline _hready
  · exact load_jump_lt _hready (lt_deadline_of_poll _hpoll)

/-- The caller sleeps. -/
def sleep (transport : Transport) (length : Nat) (loop : EventLoop) : EventLoop :=
  (loop.block transport ⟨none, loop.now + Timer.length length⟩).2

/-- The caller spawns a task for a report, and waits for its signal up to the ceiling. -/
def dispatch (dispatcher : Dispatcher) (report : Report) (loop : EventLoop) :
    DispatchOutcome × EventLoop :=
  if dispatcher.isSuppressed then (.suppressed, loop)
  else
    let event := Event.ofReport report dispatcher.version
    let wait : Wait := ⟨some loop.spawned, loop.now + Timer.length dispatcher.ceiling⟩
    let (wakeup, loop) := (loop.spawn event).block dispatcher.transport wait
    (wakeup.outcome, loop)

/-- What a call of the caller answers, and the loop after it. -/
def step (dispatcher : Dispatcher) (loop : EventLoop) :
    DispatchCall → Option DispatchOutcome × EventLoop
  | .dispatch report =>
    let (outcome, loop) := loop.dispatch dispatcher report
    (some outcome, loop)
  | .sleep length => (none, loop.sleep dispatcher.transport length)

/-- The loop after a sequence of calls. -/
def after (dispatcher : Dispatcher) (loop : EventLoop) (calls : List DispatchCall) : EventLoop :=
  calls.foldl (fun loop call => (loop.step dispatcher call).2) loop

/-! ## What is seen of a loop -/

/-- A send has come to its end. -/
def completed (loop : EventLoop) : Bool := !loop.ended.isEmpty

/-- The timer of a send went off at this very time, and the caller was faster than its task. -/
def Tied (loop : EventLoop) : Prop :=
  ∃ task, Turn.resume task ∈ loop.ready ∧ task.send.due = some loop.now

/-- What the sends have come to: a task that is ready to end counts as ended. -/
def outbox (loop : EventLoop) : Outbox where
  now := loop.now
  queued := loop.ready.filterMap Turn.event?
  running := loop.sleeping.map (·.send)
  ended := (loop.ended ++ loop.ready.filterMap Turn.task?).map (·.send)
  entered := loop.entered

end EventLoop

end CommandTelemetry
