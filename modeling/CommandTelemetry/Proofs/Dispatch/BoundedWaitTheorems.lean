import CommandTelemetry.Proofs.Dispatch.EventLoopTheorems

/-!
# How long a dispatch waits

A dispatch waits for its own send and for its ceiling, whichever is shorter, whatever other sends
are still under way.

* `Dispatcher.limit` is the longest wait of a dispatch, for no timer runs longer than thirty years;
* `Dispatcher.waitLength` and `Dispatcher.outcomeFor` are how long a dispatch waits for a send and
  what its caller sees of it;
* `EventLoop.dispatch_waits` is the law for a dispatch on the event loop after any history.
-/

namespace CommandTelemetry

namespace Answer

/-- The send ends, and needs less time than this. -/
def EndsBefore (answer : Answer) (limit : Nat) : Prop :=
  ∃ delay, answer.delay = some delay ∧ delay < limit

theorem EndsBefore.limit_pos {answer : Answer} {limit : Nat} (h : answer.EndsBefore limit) :
    0 < limit := by
  obtain ⟨delay, -, hlt⟩ := h
  omega

end Answer

namespace Dispatcher

/-- The longest time for which a caller waits. -/
def limit (dispatcher : Dispatcher) : Nat := min dispatcher.ceiling Timer.longest

/-- How long a caller waits for a send that comes to this. -/
def waitLength (dispatcher : Dispatcher) (answer : Answer) : Nat :=
  answer.delay.elim dispatcher.limit (min · dispatcher.limit)

/-- What a caller sees of a send that comes to this. -/
def outcomeFor (dispatcher : Dispatcher) (answer : Answer) : DispatchOutcome :=
  match dispatcher.timelyDelay? answer with
  | some _ => seen answer.result
  | none => .timedOut

variable {dispatcher : Dispatcher} {answer : Answer}

theorem waitLength_le (dispatcher : Dispatcher) (answer : Answer) :
    dispatcher.waitLength answer ≤ dispatcher.limit := by
  unfold waitLength
  cases answer.delay with
  | some delay => exact Nat.min_le_right _ _
  | none => exact Nat.le_refl _

/-- A send that needs less time than the limit takes the time that it needs. -/
theorem timelyDelay?_eq_some_of_lt {delay : Nat} (hdelay : answer.delay = some delay)
    (h : delay < dispatcher.limit) : dispatcher.timelyDelay? answer = some delay := by
  unfold limit at h
  have hlength : Timer.length delay = delay := Nat.min_eq_left (by omega)
  rw [timelyDelay?_eq_some_iff]
  refine ⟨⟨delay, hdelay, hlength⟩, ?_⟩
  show delay < min dispatcher.ceiling Timer.longest
  omega

theorem timelyDelay?_eq_none_of_not_endsBefore (h : ¬ answer.EndsBefore dispatcher.limit) :
    dispatcher.timelyDelay? answer = none := by
  rw [timelyDelay?_eq_none_iff]
  intro delay hdelay
  -- a delay over the longest timer is cut to it, and is late all the same
  have hlate : ¬ delay < dispatcher.limit := fun hlt => h ⟨delay, hdelay, hlt⟩
  unfold limit at hlate
  unfold Timer.length
  omega

theorem waitLength_of_late (h : ¬ answer.EndsBefore dispatcher.limit) :
    dispatcher.waitLength answer = dispatcher.limit := by
  unfold waitLength
  cases hdelay : answer.delay with
  | some delay => exact Nat.min_eq_right (Nat.le_of_not_lt fun hlt => h ⟨delay, hdelay, hlt⟩)
  | none => rfl

theorem outcomeFor_of_endsBefore (h : answer.EndsBefore dispatcher.limit) :
    dispatcher.outcomeFor answer = seen answer.result := by
  obtain ⟨delay, hdelay, hlt⟩ := h
  rw [outcomeFor, timelyDelay?_eq_some_of_lt hdelay hlt]

theorem outcomeFor_of_late (h : ¬ answer.EndsBefore dispatcher.limit) :
    dispatcher.outcomeFor answer = .timedOut := by
  rw [outcomeFor, timelyDelay?_eq_none_of_not_endsBefore h]

theorem outcomeFor_eq_delivered_iff :
    dispatcher.outcomeFor answer = .delivered
      ↔ answer.result = .accepted ∧ answer.EndsBefore dispatcher.limit := by
  by_cases hends : answer.EndsBefore dispatcher.limit
  · rw [outcomeFor_of_endsBefore hends, and_iff_left hends]
    cases answer.result <;> simp [seen]
  · rw [outcomeFor_of_late hends]
    simp [hends]

theorem outcomeFor_eq_failed_iff :
    dispatcher.outcomeFor answer = .failed
      ↔ (answer.result = .failed ∨ answer.result = .died)
        ∧ answer.EndsBefore dispatcher.limit := by
  by_cases hends : answer.EndsBefore dispatcher.limit
  · rw [outcomeFor_of_endsBefore hends, and_iff_left hends]
    cases answer.result <;> simp [seen]
  · rw [outcomeFor_of_late hends]
    simp [hends]

theorem outcomeFor_eq_timedOut_iff :
    dispatcher.outcomeFor answer = .timedOut ↔ ¬ answer.EndsBefore dispatcher.limit := by
  by_cases hends : answer.EndsBefore dispatcher.limit
  · rw [outcomeFor_of_endsBefore hends]
    cases answer.result <;> simp [seen, hends]
  · rw [outcomeFor_of_late hends]
    simp [hends]

/-- Of a dispatcher only the ceiling matters. -/
theorem waitLength_congr {peer : Dispatcher} (h : peer.ceiling = dispatcher.ceiling) :
    peer.waitLength answer = dispatcher.waitLength answer := by
  unfold waitLength limit
  rw [h]

theorem outcomeFor_congr {peer : Dispatcher} (h : peer.ceiling = dispatcher.ceiling) :
    peer.outcomeFor answer = dispatcher.outcomeFor answer := by
  unfold outcomeFor timelyDelay?
  rw [h]

/-- With no time to wait no send ends in time. -/
theorem not_endsBefore_of_zero (h : dispatcher.ceiling = 0) :
    ¬ answer.EndsBefore dispatcher.limit := by
  intro hends
  have hpos := hends.limit_pos
  rw [limit, h, Nat.zero_min] at hpos
  omega

/-- No sleep takes longer than timers run. -/
theorem now_sleep (transport : Transport) (length : Nat) (outbox : Outbox) :
    (outbox.sleep transport length).now = outbox.now + Timer.length length := by
  unfold Outbox.sleep
  split
  · next hzero =>
    rw [hzero]
    rfl
  · rfl

/-- What a dispatch answers, and how long it takes, hangs on what its own send comes to. -/
theorem dispatch_for (h : dispatcher.version ≠ devVersion) (report : Report) (outbox : Outbox) :
    (dispatcher.dispatch report outbox).1 = dispatcher.outcomeFor
        (dispatcher.nextAnswer outbox (Event.ofReport report dispatcher.version))
      ∧ (dispatcher.dispatch report outbox).2.now = outbox.now + dispatcher.waitLength
          (dispatcher.nextAnswer outbox (Event.ofReport report dispatcher.version)) := by
  have hsent := not_isSuppressed h
  by_cases hends : (dispatcher.nextAnswer outbox
      (Event.ofReport report dispatcher.version)).EndsBefore dispatcher.limit
  · -- the send ends first
    obtain ⟨delay, hdelay, hlt⟩ := hends
    have htimely := timelyDelay?_eq_some_of_lt hdelay hlt
    rw [dispatch_of_timely hsent htimely, outcomeFor, htimely, waitLength, hdelay,
      Option.elim_some, Nat.min_eq_left (Nat.le_of_lt hlt)]
    exact ⟨rfl, rfl⟩
  · -- the limit is reached first
    have hlate := timelyDelay?_eq_none_of_not_endsBefore hends
    rw [dispatch_of_late hsent hlate, outcomeFor_of_late hends, waitLength_of_late hends]
    exact ⟨rfl, now_sleep _ _ _⟩

end Dispatcher

namespace EventLoop

/-- The same holds on the event loop, for the turns of other tasks change nothing. -/
theorem Steady.dispatch_for {loop : EventLoop} (hsteady : loop.Steady) {dispatcher : Dispatcher}
    (h : dispatcher.version ≠ Dispatcher.devVersion) (report : Report) :
    (loop.dispatch dispatcher report).1 = dispatcher.outcomeFor
        (dispatcher.nextAnswer loop.outbox (Event.ofReport report dispatcher.version))
      ∧ (loop.dispatch dispatcher report).2.now = loop.now + dispatcher.waitLength
          (dispatcher.nextAnswer loop.outbox (Event.ofReport report dispatcher.version)) := by
  obtain ⟨-, houtcome, hsame⟩ := hsteady.dispatch dispatcher report
  obtain ⟨hfor, hnow⟩ := Dispatcher.dispatch_for h report loop.outbox
  exact ⟨houtcome.trans hfor, hsame.now.trans hnow⟩

/-- Two dispatches with one ceiling answer alike and take as long, if their sends come to the
same. -/
theorem Steady.dispatch_alike {loop other : EventLoop} (hsteady : loop.Steady)
    (hother : other.Steady) {dispatcher peer : Dispatcher}
    (h : dispatcher.version ≠ Dispatcher.devVersion) (hpeer : peer.version ≠ Dispatcher.devVersion)
    (hceiling : peer.ceiling = dispatcher.ceiling) {report report' : Report}
    (hanswer : peer.nextAnswer other.outbox (Event.ofReport report' peer.version)
      = dispatcher.nextAnswer loop.outbox (Event.ofReport report dispatcher.version)) :
    (other.dispatch peer report').1 = (loop.dispatch dispatcher report).1
      ∧ (other.dispatch peer report').2.now - other.now
        = (loop.dispatch dispatcher report).2.now - loop.now := by
  obtain ⟨houtcome, hfinish⟩ := hsteady.dispatch_for h report
  obtain ⟨houtcome', hfinish'⟩ := hother.dispatch_for hpeer report'
  rw [hanswer, Dispatcher.outcomeFor_congr hceiling] at houtcome'
  rw [hanswer, Dispatcher.waitLength_congr hceiling] at hfinish'
  refine ⟨houtcome'.trans houtcome.symm, ?_⟩
  rw [hfinish, hfinish', Nat.add_sub_cancel_left, Nat.add_sub_cancel_left]

/-- After any history the dispatcher without turns and timers answers as the event loop does, at the
same times. -/
theorem dispatch_after (dispatcher : Dispatcher) (calls : List DispatchCall) (report : Report) :
    let loop := start.after dispatcher calls
    let outbox := dispatcher.after Outbox.start calls
    outbox.now = loop.now
      ∧ (dispatcher.dispatch report outbox).1 = (loop.dispatch dispatcher report).1
      ∧ (dispatcher.dispatch report outbox).2.now = (loop.dispatch dispatcher report).2.now := by
  intro loop outbox
  have hsame := outbox_after dispatcher calls
  obtain ⟨-, houtcome, hleft⟩ := (steady_after dispatcher calls).dispatch dispatcher report
  obtain ⟨houtcome', hleft'⟩ := Dispatcher.dispatch_same hsame dispatcher report
  exact ⟨hsame.now.symm, (houtcome.trans houtcome').symm, (hleft.now.trans hleft'.now).symm⟩

/-- After any history a dispatch waits for its own send and for its ceiling, whichever is shorter.
It answers what became of the send if that ended in time, and that the ceiling was reached
otherwise. Another dispatcher with this ceiling answers the same after as long a wait, whatever its
history, if its send comes to the same; and so does this dispatcher without turns and timers. -/
theorem dispatch_waits (dispatcher : Dispatcher) (h : dispatcher.version ≠ Dispatcher.devVersion)
    (calls : List DispatchCall) (report : Report) :
    let loop := start.after dispatcher calls
    let outbox := dispatcher.after Outbox.start calls
    let event := Event.ofReport report dispatcher.version
    let answer := dispatcher.nextAnswer loop.outbox event
    let limit := min dispatcher.ceiling Timer.longest
    let outcome := (loop.dispatch dispatcher report).1
    let finish := (loop.dispatch dispatcher report).2.now
    finish = loop.now + (answer.delay.elim limit (min · limit))
      ∧ finish ≤ loop.now + dispatcher.ceiling
      ∧ (outcome = .delivered ↔ answer.result = .accepted ∧ answer.EndsBefore limit)
      ∧ (outcome = .failed
          ↔ (answer.result = .failed ∨ answer.result = .died) ∧ answer.EndsBefore limit)
      ∧ (outcome = .timedOut ↔ ¬ answer.EndsBefore limit)
      ∧ (dispatcher.ceiling = 0 → outcome = .timedOut ∧ finish = loop.now)
      ∧ (∀ (peer : Dispatcher) (others : List DispatchCall) (report' : Report),
          let other := start.after peer others
          peer.version ≠ Dispatcher.devVersion → peer.ceiling = dispatcher.ceiling →
            peer.nextAnswer other.outbox (Event.ofReport report' peer.version) = answer →
              (other.dispatch peer report').1 = outcome
                ∧ (other.dispatch peer report').2.now - other.now = finish - loop.now)
      ∧ outbox.now = loop.now
      ∧ (dispatcher.dispatch report outbox).1 = outcome
      ∧ (dispatcher.dispatch report outbox).2.now = finish := by
  intro loop outbox event answer limit outcome finish
  have hsteady := steady_after dispatcher calls
  obtain ⟨houtcome, hfinish⟩ : outcome = dispatcher.outcomeFor answer
      ∧ finish = loop.now + dispatcher.waitLength answer := hsteady.dispatch_for h report
  have hle : dispatcher.waitLength answer ≤ limit := dispatcher.waitLength_le answer
  have hlimit : limit ≤ dispatcher.ceiling := Nat.min_le_left _ _
  refine ⟨hfinish, by omega, ?_, ?_, ?_, ?_, ?_, dispatch_after dispatcher calls report⟩
  · rw [houtcome]
    exact Dispatcher.outcomeFor_eq_delivered_iff
  · rw [houtcome]
    exact Dispatcher.outcomeFor_eq_failed_iff
  · rw [houtcome]
    exact Dispatcher.outcomeFor_eq_timedOut_iff
  · intro hzero
    refine ⟨?_, by omega⟩
    rw [houtcome, Dispatcher.outcomeFor_of_late (Dispatcher.not_endsBefore_of_zero hzero)]
  · intro peer others report' other hpeer hceiling hanswer
    exact hsteady.dispatch_alike (steady_after peer others) h hpeer hceiling hanswer

/-- The send of the second dispatch ends in time, though the one that the first dispatch left behind
is still under way. -/
theorem dispatch_waits_beside_backlog :
    let transport : Transport :=
      ⟨fun number _ => if number = 0 then ⟨.accepted, some 8000⟩ else ⟨.failed, some 300⟩⟩
    let dispatcher : Dispatcher := ⟨"0.3.1", 5000, transport⟩
    let report : Report := ⟨"docker.up", [], Flags.empty, Outcome.failed "port in use"⟩
    let loop := start.after dispatcher [.dispatch report]
    dispatcher.version ≠ Dispatcher.devVersion
      ∧ loop.sleeping.length = 1
      ∧ (loop.dispatch dispatcher report).1 = .failed
      ∧ (loop.dispatch dispatcher report).2.now = loop.now + 300 := by
  intro transport dispatcher report loop
  have hversion : dispatcher.version ≠ Dispatcher.devVersion := by decide
  have hsleeping : loop.sleeping.length = 1 := by decide +kernel
  have hanswer : dispatcher.nextAnswer loop.outbox (Event.ofReport report dispatcher.version)
      = ⟨.failed, some 300⟩ := by decide +kernel
  obtain ⟨hfinish, -, -, hfailed, -⟩ := dispatch_waits dispatcher hversion [.dispatch report] report
  rw [hanswer] at hfinish hfailed
  exact ⟨hversion, hsleeping, hfailed.2 ⟨.inl rfl, 300, rfl, by decide⟩, hfinish⟩

/-- A ceiling over thirty years is not reached: the wait for a send that takes longer is over after
thirty years. -/
theorem dispatch_waits_thirty_years :
    let dispatcher : Dispatcher := ⟨"0.3.1", 2000000000000, .stalling 3000000000000⟩
    let report : Report := ⟨"docker.up", [], Flags.empty, Outcome.failed "port in use"⟩
    let finish := (start.dispatch dispatcher report).2.now
    finish = 946080000000 ∧ finish ≠ min 3000000000000 2000000000000 := by
  decide +kernel

end EventLoop

end CommandTelemetry
