import CommandTelemetry.Proofs.Dispatch.OutboxTheorems

/-!
# Outboxes that come to the same

Two outboxes are the same when they differ in nothing but the order in which sends were seen to
end. Every call of a caller keeps them so, and two moves of the clock come to the same as one.
-/

namespace CommandTelemetry

namespace Outbox

/-- The two differ in nothing but the order in which sends were seen to end. -/
structure Same (first second : Outbox) : Prop where
  now : first.now = second.now
  queued : first.queued = second.queued
  running : first.running = second.running
  ended : first.ended.Perm second.ended
  entered : first.entered = second.entered

namespace Same

variable {first second third : Outbox}

theorem refl (outbox : Outbox) : outbox.Same outbox :=
  ⟨rfl, rfl, rfl, List.Perm.refl _, rfl⟩

theorem trans (h : first.Same second) (h' : second.Same third) : first.Same third :=
  ⟨h.now.trans h'.now, h.queued.trans h'.queued, h.running.trans h'.running,
    h.ended.trans h'.ended, h.entered.trans h'.entered⟩

theorem attempts (h : first.Same second) : first.attempts = second.attempts := by
  rw [Outbox.attempts, h.entered, ← Outbox.attempts]

theorem completed (h : first.Same second) : first.completed = second.completed := by
  rw [Outbox.completed, Outbox.completed, h.ended.isEmpty_eq]

theorem spawn (h : first.Same second) (event : Event) :
    (first.spawn event).Same (second.spawn event) :=
  ⟨h.now, congrArg (· ++ [event]) h.queued, h.running, h.ended, h.entered⟩

theorem entering (h : first.Same second) (transport : Transport) :
    first.entering transport = second.entering transport := by
  rw [Outbox.entering, Outbox.entering, h.queued, h.now, h.attempts]

theorem enterQueued (h : first.Same second) (transport : Transport) :
    (first.enterQueued transport).Same (second.enterQueued transport) where
  now := h.now
  queued := rfl
  running := by
    show first.running ++ first.entering transport = second.running ++ second.entering transport
    rw [h.running, h.entering]
  ended := h.ended
  entered := by
    show first.entered ++ first.queued = second.entered ++ second.queued
    rw [h.entered, h.queued]

theorem advance (h : first.Same second) (time : Nat) :
    (first.advance time).Same (second.advance time) where
  now := rfl
  queued := h.queued
  running := congrArg (fun sends => sends.filter fun send => !send.endsBy time) h.running
  ended := by
    show (first.ended ++ first.running.filter (·.endsBy time)).Perm
      (second.ended ++ second.running.filter (·.endsBy time))
    rw [h.running]
    exact h.ended.append_right _
  entered := h.entered

theorem wait (h : first.Same second) (transport : Transport) (length : Nat) :
    (first.wait transport length).Same (second.wait transport length) := by
  rw [Outbox.wait, Outbox.wait, h.now]
  exact (h.enterQueued transport).advance _

theorem sleep (h : first.Same second) (transport : Transport) (length : Nat) :
    (first.sleep transport length).Same (second.sleep transport length) := by
  unfold Outbox.sleep
  split
  · exact h
  · exact h.wait transport _

end Same

/-- A send that has ended stays ended. -/
theorem endsBy_of_le {send : Send} {time later : Nat} (h : time ≤ later)
    (hends : send.endsBy time = true) : send.endsBy later = true := by
  cases hdue : send.due with
  | none =>
    rw [Send.endsBy, hdue] at hends
    cases hends
  | some due =>
    simp only [Send.endsBy, hdue, Option.any_some, decide_eq_true_eq] at hends ⊢
    omega

/-- Two moves of the clock come to the same as one. -/
theorem advance_advance {time later : Nat} (h : time ≤ later) (outbox : Outbox) :
    ((outbox.advance time).advance later).Same (outbox.advance later) where
  now := rfl
  queued := rfl
  running := by
    show (outbox.running.filter fun send => !send.endsBy time).filter
        (fun send => !send.endsBy later) = outbox.running.filter fun send => !send.endsBy later
    rw [List.filter_filter]
    apply List.filter_congr
    intro send _
    cases hends : send.endsBy time with
    | false => exact Bool.and_true _
    | true => rw [endsBy_of_le h hends]; rfl
  ended := by
    show (outbox.ended ++ outbox.running.filter (·.endsBy time)
        ++ (outbox.running.filter fun send => !send.endsBy time).filter (·.endsBy later)).Perm
      (outbox.ended ++ outbox.running.filter (·.endsBy later))
    rw [List.append_assoc]
    refine List.Perm.append_left _ ?_
    -- of the sends that end by the later time, some end by the earlier one and the others do not
    have hsplit := List.filter_append_perm (·.endsBy time) (outbox.running.filter (·.endsBy later))
    rw [List.filter_filter, List.filter_filter] at hsplit
    have hearly : (outbox.running.filter fun send => send.endsBy time && send.endsBy later)
        = outbox.running.filter (·.endsBy time) := by
      apply List.filter_congr
      intro send _
      cases hends : send.endsBy time with
      | false => rfl
      | true => rw [endsBy_of_le h hends]; rfl
    have hlate : (outbox.running.filter fun send => !send.endsBy time && send.endsBy later)
        = (outbox.running.filter fun send => !send.endsBy time).filter (·.endsBy later) := by
      rw [List.filter_filter]
      apply List.filter_congr
      intro send _
      exact Bool.and_comm _ _
    rw [hearly, hlate] at hsplit
    exact hsplit
  entered := rfl

/-- With nothing queued there is nothing to enter. -/
theorem enterQueued_of_queued_nil {outbox : Outbox} (h : outbox.queued = [])
    (transport : Transport) : outbox.enterQueued transport = outbox := by
  obtain ⟨now, queued, running, ended, entered⟩ := outbox
  cases h
  simp [enterQueued, entering]

/-- The send of an event that is entered now, before anything queued. -/
def nextSend (transport : Transport) (outbox : Outbox) (event : Event) : Send :=
  Send.enter outbox.now event (transport.answer outbox.attempts event)

/-- The first of the queued events may as well be entered by itself. -/
theorem enterQueued_cons (transport : Transport) {outbox : Outbox} {event : Event}
    {events : List Event} (h : outbox.queued = event :: events) :
    ({ outbox with
        queued := events
        entered := outbox.entered ++ [event]
        running := outbox.running ++ [outbox.nextSend transport event] } : Outbox).enterQueued
      transport = outbox.enterQueued transport := by
  have hplaces : ∀ place, outbox.attempts + 1 + place = outbox.attempts + (place + 1) := by omega
  simp only [enterQueued, entering, h, List.mapIdx_cons, nextSend, attempts, Nat.add_zero,
    List.length_append, List.length_singleton, List.append_assoc, List.singleton_append]
  simp only [attempts] at hplaces
  simp only [hplaces]

/-- A send that ends by a time may as well have ended before. -/
theorem advance_ended (transport : Transport) {send : Send} {time : Nat}
    (h : send.endsBy time = true) (outbox : Outbox) :
    ((({ outbox with ended := outbox.ended ++ [send] } : Outbox).enterQueued transport).advance
      time).Same
    ((({ outbox with running := outbox.running ++ [send] } : Outbox).enterQueued transport).advance
      time) where
  now := rfl
  queued := rfl
  running := by
    show (outbox.running ++ outbox.entering transport).filter (fun send => !send.endsBy time)
      = (outbox.running ++ [send] ++ outbox.entering transport).filter
          (fun send => !send.endsBy time)
    simp [List.filter_append, h]
  ended := by
    show (outbox.ended ++ [send]
        ++ (outbox.running ++ outbox.entering transport).filter (·.endsBy time)).Perm
      (outbox.ended
        ++ (outbox.running ++ [send] ++ outbox.entering transport).filter (·.endsBy time))
    have hsend : [send].filter (·.endsBy time) = [send] := by simp [h]
    rw [List.filter_append, List.filter_append, List.filter_append, hsend, List.perm_iff_count]
    intro other
    simp only [List.count_append]
    omega
  entered := rfl

end Outbox

namespace Dispatcher

variable {dispatcher : Dispatcher} {first second : Outbox}

/-! ## The two ways in which a wait for a send ends -/

theorem timelyDelay?_eq_some_iff {answer : Answer} {length : Nat} :
    dispatcher.timelyDelay? answer = some length
      ↔ (∃ delay, answer.delay = some delay ∧ Timer.length delay = length)
        ∧ length < Timer.length dispatcher.ceiling := by
  rw [timelyDelay?, Option.filter_eq_some_iff, Option.map_eq_some_iff, decide_eq_true_eq]

theorem timelyDelay?_eq_none_iff {answer : Answer} :
    dispatcher.timelyDelay? answer = none
      ↔ ∀ delay, answer.delay = some delay →
        Timer.length dispatcher.ceiling ≤ Timer.length delay := by
  constructor
  · intro hnone delay hdelay
    rw [timelyDelay?, hdelay, Option.map_some, Option.filter_eq_none_iff] at hnone
    have hlate := hnone (Timer.length delay) rfl
    rw [decide_eq_true_eq] at hlate
    omega
  · intro hlate
    rw [Option.eq_none_iff_forall_ne_some]
    intro length hlength
    obtain ⟨⟨delay, hdelay, rfl⟩, hlt⟩ := timelyDelay?_eq_some_iff.1 hlength
    have hle := hlate delay hdelay
    omega

/-- A send that ends before the ceiling is seen to end. -/
theorem dispatch_of_timely (hsent : dispatcher.isSuppressed = false) {report : Report}
    {outbox : Outbox} {length : Nat}
    (h : dispatcher.timelyDelay?
      (dispatcher.nextAnswer outbox (Event.ofReport report dispatcher.version)) = some length) :
    dispatcher.dispatch report outbox
      = (seen (dispatcher.nextAnswer outbox (Event.ofReport report dispatcher.version)).result,
          (outbox.spawn (Event.ofReport report dispatcher.version)).wait dispatcher.transport
            length) := by
  rw [dispatch, hsent, if_neg Bool.false_ne_true]
  dsimp only
  rw [h]

/-- Any other send is left behind. -/
theorem dispatch_of_late (hsent : dispatcher.isSuppressed = false) {report : Report}
    {outbox : Outbox}
    (h : dispatcher.timelyDelay?
      (dispatcher.nextAnswer outbox (Event.ofReport report dispatcher.version)) = none) :
    dispatcher.dispatch report outbox
      = (.timedOut, (outbox.spawn (Event.ofReport report dispatcher.version)).sleep
          dispatcher.transport dispatcher.ceiling) := by
  rw [dispatch, hsent, if_neg Bool.false_ne_true]
  dsimp only
  rw [h]

/-! ## Calls from outboxes that are the same -/

/-- A dispatch answers alike from outboxes that are the same, and leaves them the same. -/
theorem dispatch_same (h : first.Same second) (dispatcher : Dispatcher) (report : Report) :
    (dispatcher.dispatch report first).1 = (dispatcher.dispatch report second).1
      ∧ (dispatcher.dispatch report first).2.Same (dispatcher.dispatch report second).2 := by
  have hanswer : ∀ event,
      dispatcher.nextAnswer first event = dispatcher.nextAnswer second event := by
    intro event
    rw [nextAnswer, nextAnswer, h.attempts, h.queued]
  unfold dispatch
  split
  · exact ⟨rfl, h⟩
  · dsimp only
    rw [hanswer]
    split
    · exact ⟨rfl, (h.spawn _).wait _ _⟩
    · exact ⟨rfl, (h.spawn _).sleep _ _⟩

theorem step_same (h : first.Same second) (dispatcher : Dispatcher) (call : DispatchCall) :
    (dispatcher.step first call).outcome = (dispatcher.step second call).outcome
      ∧ (dispatcher.step first call).outbox.Same (dispatcher.step second call).outbox := by
  cases call with
  | dispatch report =>
    have hdispatch := dispatch_same h dispatcher report
    exact ⟨congrArg some hdispatch.1, hdispatch.2⟩
  | sleep length => exact ⟨rfl, h.sleep _ _⟩

end Dispatcher

end CommandTelemetry
