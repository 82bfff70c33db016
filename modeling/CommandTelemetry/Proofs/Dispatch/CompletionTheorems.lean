import CommandTelemetry.Proofs.Dispatch.EventLoopTheorems

/-!
# When sends end

A send that was left behind ends at its own time, whatever its caller does until then.

* `Outbox.Timed` ties the sends of an outbox to the times at which they were entered, and one lemma
  for each operation says what the operation does to these;
* `Dispatcher.FirstWait` says which call of a history lets a send be entered, and
  `Dispatcher.timed_after` what the outbox holds after any history;
* `EventLoop.completed_after` says that nothing that has ended is taken back;
* `EventLoop.completes_on_time` is the law for every point of a history on the event loop.
-/

namespace CommandTelemetry

namespace Outbox

/-! ## Sends and the times at which they were entered -/

theorem mem_entering {transport : Transport} {outbox : Outbox} {send : Send}
    (h : send ∈ outbox.entering transport) : ∃ place event,
      send = Send.enter outbox.now event (transport.answer (outbox.attempts + place) event) := by
  rw [entering, List.mem_mapIdx] at h
  obtain ⟨place, hplace, rfl⟩ := h
  exact ⟨place, outbox.queued[place], rfl⟩

theorem entering_eq_nil_iff {transport : Transport} {outbox : Outbox} :
    outbox.entering transport = [] ↔ outbox.queued = [] := by
  rw [entering, List.mapIdx_eq_nil_iff]

/-- A wait takes no send away, and brings those of everything queued. -/
theorem mem_wait {transport : Transport} {length : Nat} {outbox : Outbox} {send : Send} :
    send ∈ (outbox.wait transport length).running ++ (outbox.wait transport length).ended
      ↔ send ∈ outbox.running ++ outbox.ended ∨ send ∈ outbox.entering transport := by
  simp only [wait, advance, enterQueued, List.mem_append, List.mem_filter, Bool.not_eq_true']
  cases send.endsBy (outbox.now + length) <;> simp <;> tauto

/-- Every send takes this long. Those under way are not due yet, those that ended were. They were
entered at these times, and it is known whether others wait to be. -/
structure Timed (length : Nat) (times : Nat → Prop) (pending : Prop) (outbox : Outbox) :
    Prop where
  due : ∀ send ∈ outbox.running ++ outbox.ended, send.due = some (send.enteredAt + length)
  running : ∀ send ∈ outbox.running, send.endsBy outbox.now = false
  ended : ∀ send ∈ outbox.ended, send.endsBy outbox.now = true
  times : ∀ time, times time ↔ ∃ send ∈ outbox.running ++ outbox.ended, send.enteredAt = time
  pending : pending ↔ outbox.queued ≠ []

theorem timed_start (length : Nat) : start.Timed length (fun _ => False) False where
  due := fun _ h => by cases h
  running := fun _ h => by cases h
  ended := fun _ h => by cases h
  times := fun _ => ⟨False.elim, fun ⟨_, h, _⟩ => by cases h⟩
  pending := ⟨False.elim, fun h => h rfl⟩

namespace Timed

variable {length : Nat} {times : Nat → Prop} {pending : Prop} {outbox : Outbox}

theorem spawn (h : outbox.Timed length times pending) (event : Event) :
    (outbox.spawn event).Timed length times True where
  due := h.due
  running := h.running
  ended := h.ended
  times := h.times
  pending := ⟨fun _ => List.concat_ne_nil event outbox.queued, fun _ => trivial⟩

/-- A wait enters what was pending, at the time at which it begins. -/
theorem wait {delay : Nat} (h : outbox.Timed (Timer.length delay) times pending) (waited : Nat) :
    (outbox.wait (.stalling delay) waited).Timed (Timer.length delay)
      (fun time => times time ∨ pending ∧ time = outbox.now) False where
  due := by
    intro send hsend
    rcases mem_wait.1 hsend with hold | hnew
    · exact h.due send hold
    · obtain ⟨place, event, rfl⟩ := mem_entering hnew
      rfl
  running := by
    intro send hsend
    have hends := (List.mem_filter.1 hsend).2
    show send.endsBy (outbox.now + waited) = false
    simpa using hends
  ended := by
    intro send hsend
    rcases List.mem_append.1 hsend with hold | hnew
    · exact endsBy_of_le (Nat.le_add_right _ _) (h.ended send hold)
    · exact (List.mem_filter.1 hnew).2
  times := by
    intro time
    rw [h.times, h.pending]
    constructor
    · rintro (⟨send, hsend, rfl⟩ | ⟨hqueued, rfl⟩)
      · exact ⟨send, mem_wait.2 (.inl hsend), rfl⟩
      · have hentering : outbox.entering (.stalling delay) ≠ [] := mt entering_eq_nil_iff.1 hqueued
        obtain ⟨send, hmem⟩ := List.exists_mem_of_ne_nil _ hentering
        obtain ⟨place, event, hsend⟩ := mem_entering hmem
        exact ⟨send, mem_wait.2 (.inr hmem), by rw [hsend]; rfl⟩
    · rintro ⟨send, hsend, rfl⟩
      rcases mem_wait.1 hsend with hold | hnew
      · exact .inl ⟨send, hold, rfl⟩
      · obtain ⟨place, event, rfl⟩ := mem_entering hnew
        refine .inr ⟨fun hqueued => ?_, rfl⟩
        rw [entering_eq_nil_iff.2 hqueued] at hnew
        cases hnew
  pending := ⟨False.elim, fun h => h rfl⟩

/-- A send has ended exactly when one was entered long enough ago. -/
theorem completed_iff (h : outbox.Timed length times pending) :
    outbox.completed = true ↔ ∃ time, times time ∧ time + length ≤ outbox.now := by
  have hends : ∀ send ∈ outbox.running ++ outbox.ended,
      send.endsBy outbox.now = true ↔ send.enteredAt + length ≤ outbox.now := by
    intro send hsend
    rw [Send.endsBy, h.due send hsend, Option.any_some, decide_eq_true_eq]
  constructor
  · intro hcompleted
    obtain ⟨send, hsend⟩ : ∃ send, send ∈ outbox.ended := by
      rw [completed, Bool.not_eq_true', List.isEmpty_eq_false_iff] at hcompleted
      exact List.exists_mem_of_ne_nil _ hcompleted
    have hmem := List.mem_append_right outbox.running hsend
    have hdue := (hends send hmem).1 (h.ended send hsend)
    exact ⟨send.enteredAt, (h.times _).2 ⟨send, hmem, rfl⟩, hdue⟩
  · rintro ⟨time, htime, hle⟩
    obtain ⟨send, hmem, rfl⟩ := (h.times time).1 htime
    have hended := (hends send hmem).2 hle
    rcases List.mem_append.1 hmem with hrunning | hsend
    · -- a send under way is not due yet
      rw [h.running send hrunning] at hended
      cases hended
    · rw [completed, Bool.not_eq_true', List.isEmpty_eq_false_iff]
      exact List.ne_nil_of_mem hsend

theorem congr {times' : Nat → Prop} {pending' : Prop} (h : outbox.Timed length times pending)
    (htimes : ∀ time, times' time ↔ times time) (hpending : pending' ↔ pending) :
    outbox.Timed length times' pending' where
  due := h.due
  running := h.running
  ended := h.ended
  times := fun time => (htimes time).trans (h.times time)
  pending := hpending.trans h.pending

end Timed

end Outbox

namespace Dispatcher

/-! ## When the sends of a history are entered -/

variable {dispatcher : Dispatcher} {calls : List DispatchCall}

/-- What a call spawns, before it waits. -/
def spawned (dispatcher : Dispatcher) (outbox : Outbox) : DispatchCall → Outbox
  | .dispatch report => outbox.spawn (Event.ofReport report dispatcher.version)
  | .sleep _ => outbox

theorem now_spawned (dispatcher : Dispatcher) (outbox : Outbox) (call : DispatchCall) :
    (dispatcher.spawned outbox call).now = outbox.now := by
  cases call <;> rfl

theorem step_of_waits (h : dispatcher.version ≠ devVersion) {call : DispatchCall}
    (hwaits : call.waits dispatcher) (outbox : Outbox) : ∃ length,
      (dispatcher.step outbox call).outbox
        = (dispatcher.spawned outbox call).wait dispatcher.transport length := by
  cases call with
  | dispatch report =>
    have hceiling : dispatcher.ceiling ≠ 0 := Nat.ne_of_gt hwaits
    have hsleep := dispatch_snd h report outbox
    split at hsleep
    · exact ⟨_, hsleep⟩
    · rw [Outbox.sleep, if_neg hceiling] at hsleep
      exact ⟨_, hsleep⟩
  | sleep length =>
    have hlength : length ≠ 0 := Nat.ne_of_gt hwaits
    exact ⟨Timer.length length, if_neg hlength⟩

theorem step_of_not_waits (h : dispatcher.version ≠ devVersion) {call : DispatchCall}
    (hwaits : ¬ call.waits dispatcher) (outbox : Outbox) :
    (dispatcher.step outbox call).outbox = dispatcher.spawned outbox call := by
  cases call with
  | dispatch report =>
    have hceiling : dispatcher.ceiling = 0 := Nat.eq_zero_of_not_pos hwaits
    have hlate : dispatcher.timelyDelay?
        (dispatcher.nextAnswer outbox (Event.ofReport report dispatcher.version)) = none := by
      rw [timelyDelay?_eq_none_iff]
      intro delay _
      rw [hceiling]
      exact Nat.zero_le _
    have hsleep := dispatch_snd h report outbox
    rw [hlate, hceiling] at hsleep
    exact hsleep
  | sleep length =>
    have hlength : length = 0 := Nat.eq_zero_of_not_pos hwaits
    exact if_pos hlength

theorem after_take_succ (dispatcher : Dispatcher) (outbox : Outbox) {place : Nat}
    {call : DispatchCall} (hcall : calls[place]? = some call) :
    dispatcher.after outbox (calls.take (place + 1))
      = (dispatcher.step (dispatcher.after outbox (calls.take place)) call).outbox := by
  rw [List.take_add_one, hcall, Option.toList_some, after, List.foldl_append]
  rfl

theorem timed_spawned {length : Nat} {times : Nat → Prop} {pending : Prop} {outbox : Outbox}
    (h : outbox.Timed length times pending) (dispatcher : Dispatcher) (call : DispatchCall) :
    (dispatcher.spawned outbox call).Timed length times
      (pending ∨ ∃ report, call = .dispatch report) := by
  cases call with
  | dispatch report =>
    refine (h.spawn _).congr (fun _ => Iff.rfl) ?_
    exact iff_true_intro (.inr ⟨report, rfl⟩)
  | sleep length =>
    refine h.congr (fun _ => Iff.rfl) ?_
    exact or_iff_left fun ⟨_, hdispatch⟩ => nomatch hdispatch

/-- The first call from a place on that lets time pass. -/
structure FirstWait (dispatcher : Dispatcher) (calls : List DispatchCall) (first place : Nat) :
    Prop where
  le : first ≤ place
  waits : ∃ call, calls[place]? = some call ∧ call.waits dispatcher
  before : ∀ i call, first ≤ i → i < place → calls[i]? = some call → ¬ call.waits dispatcher

/-- The time at which a call begins. -/
def clock (dispatcher : Dispatcher) (calls : List DispatchCall) (place : Nat) : Nat :=
  (dispatcher.after Outbox.start (calls.take place)).now

/-- The send of a dispatch was entered at this time, by a call before this place. -/
def EnteredAt (dispatcher : Dispatcher) (calls : List DispatchCall) (limit time : Nat) : Prop :=
  ∃ first report, calls[first]? = some (.dispatch report)
    ∧ ∃ place < limit, dispatcher.FirstWait calls first place ∧ time = dispatcher.clock calls place

/-- The send of a dispatch before this place waits to be entered there. -/
def PendingAt (dispatcher : Dispatcher) (calls : List DispatchCall) (limit : Nat) : Prop :=
  ∃ first < limit, ∃ report, calls[first]? = some (.dispatch report)
    ∧ ∀ i call, first ≤ i → i < limit → calls[i]? = some call → ¬ call.waits dispatcher

theorem enteredAt_succ_of_waits {limit : Nat} {call : DispatchCall}
    (hcall : calls[limit]? = some call) (hwaits : call.waits dispatcher) (time : Nat) :
    dispatcher.EnteredAt calls (limit + 1) time ↔ dispatcher.EnteredAt calls limit time
      ∨ (dispatcher.PendingAt calls limit ∨ ∃ report, call = .dispatch report)
        ∧ time = dispatcher.clock calls limit := by
  constructor
  · rintro ⟨first, report, hfirst, place, hplace, hwait, rfl⟩
    rcases Nat.lt_succ_iff_lt_or_eq.1 hplace with hlt | rfl
    · exact .inl ⟨first, report, hfirst, place, hlt, hwait, rfl⟩
    · -- the last call enters the send, which was pending before it or is its own
      refine .inr ⟨?_, rfl⟩
      rcases Nat.lt_or_eq_of_le hwait.le with hlt | rfl
      · exact .inl ⟨first, hlt, report, hfirst, hwait.before⟩
      · rw [hcall, Option.some.injEq] at hfirst
        exact .inr ⟨report, hfirst⟩
  · rintro (⟨first, report, hfirst, place, hplace, hwait⟩ | ⟨hpending | ⟨report, rfl⟩, rfl⟩)
    · exact ⟨first, report, hfirst, place, Nat.lt_succ_of_lt hplace, hwait⟩
    · obtain ⟨first, hlt, report, hfirst, hbefore⟩ := hpending
      exact ⟨first, report, hfirst, limit, Nat.lt_succ_self limit,
        ⟨Nat.le_of_lt hlt, ⟨call, hcall, hwaits⟩, hbefore⟩, rfl⟩
    · refine ⟨limit, report, hcall, limit, Nat.lt_succ_self limit,
        ⟨Nat.le_refl _, ⟨_, hcall, hwaits⟩, ?_⟩, rfl⟩
      intro i _ hle hlt
      omega

theorem not_pendingAt_succ_of_waits {limit : Nat} {call : DispatchCall}
    (hcall : calls[limit]? = some call) (hwaits : call.waits dispatcher) :
    ¬ dispatcher.PendingAt calls (limit + 1) := by
  rintro ⟨first, hlt, report, hfirst, hbefore⟩
  exact hbefore limit call (Nat.le_of_lt_succ hlt) (Nat.lt_succ_self limit) hcall hwaits

theorem enteredAt_succ_of_not_waits {limit : Nat}
    (hcall : ∀ call, calls[limit]? = some call → ¬ call.waits dispatcher) (time : Nat) :
    dispatcher.EnteredAt calls (limit + 1) time ↔ dispatcher.EnteredAt calls limit time := by
  constructor
  · rintro ⟨first, report, hfirst, place, hplace, hwait, htime⟩
    rcases Nat.lt_succ_iff_lt_or_eq.1 hplace with hlt | rfl
    · exact ⟨first, report, hfirst, place, hlt, hwait, htime⟩
    · obtain ⟨call, hlast, hwaits⟩ := hwait.waits
      exact absurd hwaits (hcall call hlast)
  · rintro ⟨first, report, hfirst, place, hplace, hwait⟩
    exact ⟨first, report, hfirst, place, Nat.lt_succ_of_lt hplace, hwait⟩

theorem pendingAt_succ_of_not_waits {limit : Nat}
    (hcall : ∀ call, calls[limit]? = some call → ¬ call.waits dispatcher) :
    dispatcher.PendingAt calls (limit + 1) ↔ dispatcher.PendingAt calls limit
      ∨ ∃ report, calls[limit]? = some (.dispatch report) := by
  constructor
  · rintro ⟨first, hlt, report, hfirst, hbefore⟩
    rcases Nat.lt_succ_iff_lt_or_eq.1 hlt with hlt | rfl
    · exact .inl ⟨first, hlt, report, hfirst, fun i call hle hi =>
        hbefore i call hle (Nat.lt_succ_of_lt hi)⟩
    · exact .inr ⟨report, hfirst⟩
  · rintro (⟨first, hlt, report, hfirst, hbefore⟩ | ⟨report, hlast⟩)
    · refine ⟨first, Nat.lt_succ_of_lt hlt, report, hfirst, ?_⟩
      intro i call hle hi hi'
      rcases Nat.lt_succ_iff_lt_or_eq.1 hi with hi | rfl
      · exact hbefore i call hle hi hi'
      · exact hcall call hi'
    · refine ⟨limit, Nat.lt_succ_self limit, report, hlast, ?_⟩
      intro i call hle hi hi'
      obtain rfl : i = limit := by omega
      exact hcall call hi'

/-- After any history the outbox holds a send for every dispatch that was followed by a call which
lets time pass, entered when that call began. -/
theorem timed_after {delay : Nat} (h : dispatcher.version ≠ devVersion)
    (htransport : dispatcher.transport = .stalling delay) (calls : List DispatchCall)
    (limit : Nat) :
    (dispatcher.after Outbox.start (calls.take limit)).Timed (Timer.length delay)
      (dispatcher.EnteredAt calls limit) (dispatcher.PendingAt calls limit) := by
  induction limit with
  | zero =>
    refine (Outbox.timed_start _).congr (fun time => ?_) ?_
    · exact iff_false_intro fun ⟨_, _, _, _, hlt, _⟩ => Nat.not_lt_zero _ hlt
    · exact iff_false_intro fun ⟨_, hlt, _⟩ => Nat.not_lt_zero _ hlt
  | succ limit ih =>
    cases hcall : calls[limit]? with
    | none =>
      -- no call is left, and nothing changes any more
      have hnone : ∀ call, calls[limit]? = some call → ¬ call.waits dispatcher := by
        intro call hsome
        rw [hcall] at hsome
        cases hsome
      have htake : calls.take (limit + 1) = calls.take limit := by
        rw [List.take_add_one, hcall]
        exact List.append_nil _
      rw [htake]
      refine ih.congr (enteredAt_succ_of_not_waits hnone) ?_
      rw [pendingAt_succ_of_not_waits hnone, hcall]
      exact or_iff_left fun ⟨_, hsome⟩ => nomatch hsome
    | some call =>
      rw [after_take_succ dispatcher Outbox.start hcall]
      have hspawned := timed_spawned ih dispatcher call
      by_cases hwaits : call.waits dispatcher
      · -- what was pending and what the call spawns is entered when the call begins
        obtain ⟨length, hstep⟩ := step_of_waits h hwaits
          (dispatcher.after Outbox.start (calls.take limit))
        rw [hstep, htransport]
        refine (hspawned.wait length).congr ?_ ?_
        · intro time
          rw [now_spawned]
          exact enteredAt_succ_of_waits hcall hwaits time
        · exact iff_false_intro (not_pendingAt_succ_of_waits hcall hwaits)
      · -- what the call spawns joins what is pending
        have hnot : ∀ call, calls[limit]? = some call → ¬ call.waits dispatcher := by
          intro other hother
          rw [hcall, Option.some.injEq] at hother
          rwa [← hother]
        rw [step_of_not_waits h hwaits]
        refine hspawned.congr (enteredAt_succ_of_not_waits hnot) ?_
        rw [pendingAt_succ_of_not_waits hnot, hcall]
        simp only [Option.some.injEq]

theorem completed_after {delay : Nat} (h : dispatcher.version ≠ devVersion)
    (htransport : dispatcher.transport = .stalling delay) (calls : List DispatchCall)
    (limit : Nat) :
    (dispatcher.after Outbox.start (calls.take limit)).completed = true
      ↔ ∃ time, dispatcher.EnteredAt calls limit time
        ∧ time + Timer.length delay ≤ dispatcher.clock calls limit :=
  (timed_after h htransport calls limit).completed_iff

/-- A dispatch with time to wait waits itself. -/
theorem firstWait_iff_of_ceiling (hceiling : 0 < dispatcher.ceiling) {first place : Nat}
    {report : Report} (hfirst : calls[first]? = some (.dispatch report)) :
    dispatcher.FirstWait calls first place ↔ place = first := by
  constructor
  · intro hwait
    have hnot : ¬ first < place := fun hlt =>
      hwait.before first _ (Nat.le_refl _) hlt hfirst hceiling
    have hle := hwait.le
    omega
  · rintro rfl
    refine ⟨Nat.le_refl _, ⟨_, hfirst, hceiling⟩, ?_⟩
    intro i _ hle hlt
    omega

end Dispatcher

namespace DispatchCall

/-- The first sleep after a place. -/
structure NextSleep (calls : List DispatchCall) (first place : Nat) : Prop where
  lt : first < place
  sleep : ∃ length, calls[place]? = some (.sleep length)
  between : ∀ i length, first < i → i < place → calls[i]? ≠ some (.sleep length)

end DispatchCall

namespace Dispatcher

variable {dispatcher : Dispatcher} {calls : List DispatchCall}

/-- With no time to wait only a sleep lets time pass. -/
theorem firstWait_iff_of_no_ceiling (hceiling : dispatcher.ceiling = 0)
    (hsleeps : ∀ length, DispatchCall.sleep length ∈ calls → 0 < length) {first place : Nat}
    {report : Report} (hfirst : calls[first]? = some (.dispatch report)) :
    dispatcher.FirstWait calls first place ↔ DispatchCall.NextSleep calls first place := by
  have hdispatch : ∀ report, ¬ DispatchCall.waits dispatcher (.dispatch report) :=
    fun _ => Nat.not_lt.2 (Nat.le_of_eq hceiling)
  have hsleep : ∀ {i length : Nat}, calls[i]? = some (.sleep length) → 0 < length :=
    fun hi => hsleeps _ (List.mem_of_getElem? hi)
  constructor
  · intro hwait
    obtain ⟨call, hcall, hwaits⟩ := hwait.waits
    cases call with
    | dispatch report' => exact absurd hwaits (hdispatch report')
    | sleep length =>
      refine ⟨?_, ⟨length, hcall⟩, ?_⟩
      · refine Nat.lt_of_le_of_ne hwait.le fun heq => ?_
        rw [← heq, hfirst] at hcall
        cases hcall
      · intro i other hlt hi hother
        exact hwait.before i _ (Nat.le_of_lt hlt) hi hother (hsleep hother)
  · intro hnext
    obtain ⟨length, hlength⟩ := hnext.sleep
    refine ⟨Nat.le_of_lt hnext.lt, ⟨_, hlength, hsleep hlength⟩, ?_⟩
    intro i call hle hlt hcall
    cases call with
    | dispatch report' => exact hdispatch report'
    | sleep other =>
      rcases Nat.lt_or_eq_of_le hle with hi | rfl
      · exact absurd hcall (hnext.between i other hi hlt)
      · rw [hfirst] at hcall
        cases hcall

/-- A send is entered when its dispatch begins, or when the next sleep begins if the dispatch has no
time to wait. -/
theorem enteredAt_iff (dispatcher : Dispatcher)
    (hsleeps : ∀ length, DispatchCall.sleep length ∈ calls → 0 < length) (limit time : Nat) :
    dispatcher.EnteredAt calls limit time
      ↔ ∃ first < limit, ∃ report, calls[first]? = some (.dispatch report)
        ∧ if 0 < dispatcher.ceiling then time = dispatcher.clock calls first
          else ∃ place < limit, DispatchCall.NextSleep calls first place
            ∧ time = dispatcher.clock calls place := by
  rcases Nat.eq_zero_or_pos dispatcher.ceiling with hzero | hpositive
  · have hno : ¬ 0 < dispatcher.ceiling := by omega
    simp only [if_neg hno]
    constructor
    · rintro ⟨first, report, hfirst, place, hplace, hwait, rfl⟩
      have hnext := (firstWait_iff_of_no_ceiling hzero hsleeps hfirst).1 hwait
      exact ⟨first, Nat.lt_trans hnext.lt hplace, report, hfirst, place, hplace, hnext, rfl⟩
    · rintro ⟨first, -, report, hfirst, place, hplace, hnext, rfl⟩
      have hwait := (firstWait_iff_of_no_ceiling hzero hsleeps hfirst).2 hnext
      exact ⟨first, report, hfirst, place, hplace, hwait, rfl⟩
  · simp only [if_pos hpositive]
    constructor
    · rintro ⟨first, report, hfirst, place, hplace, hwait, rfl⟩
      obtain rfl := (firstWait_iff_of_ceiling hpositive hfirst).1 hwait
      exact ⟨place, hplace, report, hfirst, rfl⟩
    · rintro ⟨first, hlt, report, hfirst, rfl⟩
      have hwait := (firstWait_iff_of_ceiling hpositive hfirst).2 rfl
      exact ⟨first, report, hfirst, first, hlt, hwait, rfl⟩

end Dispatcher

namespace EventLoop

/-! ## Nothing that has ended is taken back -/

variable {loop : EventLoop} {transport : Transport}

theorem ended_runTurn (transport : Transport) (turn : Turn) (turns : List Turn) (loop : EventLoop) :
    loop.ended <+: (loop.runTurn transport turn turns).ended := by
  cases turn with
  | start number event =>
    rw [runTurn]
    split
    · exact List.prefix_append _ _
    · exact List.prefix_refl _
  | resume task => exact List.prefix_append _ _

theorem ended_block (transport : Transport) (wait : Wait) (loop : EventLoop) :
    loop.ended <+: (loop.block transport wait).2.ended := by
  fun_induction EventLoop.block transport wait loop with
  | case1 loop wakeup hpoll => exact List.prefix_refl _
  | case2 loop hpoll turn turns hready ih =>
    exact (ended_runTurn transport turn turns loop).trans ih
  | case3 loop hpoll hready ih => exact ih

theorem ended_step (dispatcher : Dispatcher) (call : DispatchCall) (loop : EventLoop) :
    loop.ended <+: (loop.step dispatcher call).2.ended := by
  cases call with
  | dispatch report =>
    cases hsent : dispatcher.isSuppressed with
    | true =>
      have hsame : loop.dispatch dispatcher report = (.suppressed, loop) := if_pos hsent
      exact ⟨[], (List.append_nil _).trans (congrArg (·.2.ended) hsame).symm⟩
    | false =>
      rw [step, dispatch_eq hsent]
      exact ended_block _ _ (loop.spawn _)
  | sleep length => exact ended_block _ _ loop

theorem ended_after (dispatcher : Dispatcher) (calls : List DispatchCall) (loop : EventLoop) :
    loop.ended <+: (loop.after dispatcher calls).ended := by
  induction calls generalizing loop with
  | nil => exact List.prefix_refl _
  | cons call calls ih => exact (ended_step dispatcher call loop).trans (ih _)

theorem after_append (dispatcher : Dispatcher) (loop : EventLoop)
    (first second : List DispatchCall) : loop.after dispatcher (first ++ second)
      = (loop.after dispatcher first).after dispatcher second :=
  List.foldl_append

theorem completed_iff : loop.completed = true ↔ loop.ended ≠ [] := by
  rw [completed, Bool.not_eq_true', List.isEmpty_eq_false_iff]

theorem completed_after (dispatcher : Dispatcher) (calls : List DispatchCall)
    (h : loop.completed = true) : (loop.after dispatcher calls).completed = true := by
  rw [completed_iff] at h ⊢
  intro hnone
  have hprefix := ended_after dispatcher calls loop
  rw [hnone, List.prefix_nil] at hprefix
  exact h hprefix

/-! ## When sends end -/

/-- Without a tie no task is left that is ready to end. -/
theorem Steady.completed_outbox (h : loop.Steady) (htie : ¬ loop.Tied) :
    loop.completed = loop.outbox.completed := by
  have htasks : loop.ready.filterMap Turn.task? = [] := by
    rw [List.filterMap_eq_nil_iff]
    intro turn hturn
    cases turn with
    | start number event => rfl
    | resume task => exact absurd ⟨task, hturn, h.resumed task hturn⟩ htie
  rw [completed, Outbox.completed, outbox, htasks, List.append_nil, List.isEmpty_map]

/-- At every point of every history of dispatches and sleeps, a send has ended exactly when one was
entered that long ago: a send is entered when its dispatch begins, or, if that has no time to wait,
when the next sleep begins. Nothing that has ended is taken back. -/
theorem completes_on_time (version : String) (h : version ≠ Dispatcher.devVersion)
    (ceiling delay : Nat) (calls : List DispatchCall)
    (hsleeps : ∀ length, DispatchCall.sleep length ∈ calls → 0 < length) (point : Nat) :
    let dispatcher : Dispatcher := ⟨version, ceiling, .stalling delay⟩
    let loop := fun place => start.after dispatcher (calls.take place)
    (¬ (loop point).Tied → ((loop point).completed = true
      ↔ ∃ first < point, ∃ report time, calls[first]? = some (.dispatch report)
        ∧ (if 0 < ceiling then time = (loop first).now
          else ∃ place < point, DispatchCall.NextSleep calls first place ∧ time = (loop place).now)
        ∧ time + Timer.length delay ≤ (loop point).now))
      ∧ ∀ later, point ≤ later → (loop point).completed = true → (loop later).completed = true := by
  intro dispatcher loop
  have hclock : ∀ place, dispatcher.clock calls place = (loop place).now :=
    fun place => (outbox_after dispatcher (calls.take place)).now.symm
  constructor
  · intro htie
    -- without a tie the loop shows what the outbox does
    have hcompleted : (loop point).completed
        = (dispatcher.after Outbox.start (calls.take point)).completed :=
      ((steady_after dispatcher _).completed_outbox htie).trans
        (outbox_after dispatcher _).completed
    have hentered := Dispatcher.enteredAt_iff dispatcher hsleeps point
    simp only [hclock] at hentered
    rw [hcompleted, Dispatcher.completed_after h rfl, hclock]
    constructor
    · rintro ⟨time, htime, hle⟩
      obtain ⟨first, hlt, report, hfirst, hwhen⟩ := (hentered time).1 htime
      exact ⟨first, hlt, report, time, hfirst, hwhen, hle⟩
    · rintro ⟨first, hlt, report, time, hfirst, hwhen, hle⟩
      exact ⟨time, (hentered time).2 ⟨first, hlt, report, hfirst, hwhen⟩, hle⟩
  · intro later hle hcompleted
    have htake : calls.take later
        = calls.take point ++ (calls.drop point).take (later - point) := by
      rw [← List.take_add, Nat.add_sub_cancel' hle]
    show (start.after dispatcher (calls.take later)).completed = true
    rw [htake, after_append]
    exact completed_after dispatcher _ hcompleted

/-- The first of two sends that were left behind ends while the caller waits for the second. -/
theorem completes_on_time_behind_another :
    let report : Report := ⟨"docker.up", [], Flags.empty, Outcome.failed "port in use"⟩
    let calls := [DispatchCall.dispatch report, .sleep 3, .dispatch report, .sleep 2]
    let dispatcher : Dispatcher := ⟨"0.3.1", 4, .stalling 10⟩
    "0.3.1" ≠ Dispatcher.devVersion
      ∧ (∀ length, DispatchCall.sleep length ∈ calls → 0 < length)
      ∧ (start.after dispatcher (calls.take 2)).completed = false
      ∧ (start.after dispatcher (calls.take 3)).completed = true
      ∧ (start.after dispatcher calls).completed = true := by
  intro report calls dispatcher
  have hversion : "0.3.1" ≠ Dispatcher.devVersion := by decide
  have hsleeps : ∀ length, DispatchCall.sleep length ∈ calls → 0 < length := by
    intro length hmem
    have hlength : length = 3 ∨ length = 2 := by simpa [calls] using hmem
    omega
  have hready : (start.after dispatcher (calls.take 3)).ready = [] := by decide +kernel
  have htie : ¬ (start.after dispatcher (calls.take 3)).Tied := by
    rintro ⟨task, htask, -⟩
    rw [hready] at htask
    cases htask
  have hbefore : (start.after dispatcher (calls.take 2)).completed = false := by decide +kernel
  obtain ⟨hends, hkeeps⟩ := completes_on_time "0.3.1" hversion 4 10 calls hsleeps 3
  have hcompleted := (hends htie).2 ⟨0, by decide, report, 0, rfl, rfl, by decide +kernel⟩
  exact ⟨hversion, hsleeps, hbefore, hcompleted, hkeeps 4 (by decide) hcompleted⟩

/-- A delay over thirty years is not waited for: the send has ended before it is over, though no
other was entered. -/
theorem completes_on_time_thirty_years :
    let report : Report := ⟨"docker.up", [], Flags.empty, Outcome.failed "port in use"⟩
    let dispatcher : Dispatcher := ⟨"0.3.1", 100, .stalling 2000000000000⟩
    let loop := start.after dispatcher [.dispatch report, .sleep 1000000000000]
    loop.completed = true ∧ loop.ready = [] ∧ ∀ time, ¬ time + 2000000000000 ≤ loop.now := by
  intro report dispatcher loop
  have hcompleted : loop.completed = true := by decide +kernel
  have hready : loop.ready = [] := by decide +kernel
  have hnow : loop.now = 946080000100 := by decide +kernel
  refine ⟨hcompleted, hready, ?_⟩
  intro time hle
  omega

end EventLoop

end CommandTelemetry
