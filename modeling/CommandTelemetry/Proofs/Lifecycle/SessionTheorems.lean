import CommandTelemetry.Command.Sample
import CommandTelemetry.Proofs.Lifecycle.HostTheorems
import Mathlib.Data.List.Forall2

/-!
# Every ending is reported once

A host that holds any number of invocations sends one event for each that it ends, in the order in
which it ends them, whatever its transport makes of them.

* `HookCall.heldAfter` is what a call makes of the invocation under one name, and
  `Session.context?_step` says that a call makes this of the invocation under each name;
* `Session.endings` are the endings that a sequence of calls brings about;
* `Session.reports_each_ending` is the law for every sequence of calls.
-/

namespace CommandTelemetry

/-! ## Invocations by name -/

namespace HookCall

/-- What a call makes of the invocation held under a name, if that is the name that it is about. -/
def heldAfter (command : Command) (tree : CommandTree) (now : Nat) (name : String)
    (held : Option Context) : HookCall → Option Context
  | .parse other argv =>
    if other = name then
      match command.parse argv with
      | .ok parsed => some (Context.ofParsed tree parsed)
      | .error _ => held
    else held
  | .make other words args flags =>
    if other = name then
      match tree.lookup words with
      | some node => some (Context.make node args flags)
      | none => held
    else held
  | .start other => if other = name then held.map (·.start now) else held
  | .success other => if other = name then none else held
  | .fail other _ => if other = name then none else held
  | .sleep _ => held
  | .failUnparsed _ _ => held

end HookCall

namespace Session

variable {session : Session}

theorem context?_release (session : Session) (other name : String) :
    (session.release other).context? name
      = if other = name then none else session.context? name := by
  by_cases hname : other = name
  · have hnone : (session.contexts.filter (·.1 ≠ other)).find? (·.1 = name) = none := by
      rw [List.find?_eq_none]
      intro entry hentry
      rw [hname] at hentry
      simpa using (List.mem_filter.1 hentry).2
    rw [if_pos hname, context?, release, hnone]
    rfl
  · have hsame : (session.contexts.filter (·.1 ≠ other)).find? (·.1 = name)
        = session.contexts.find? (·.1 = name) := by
      rw [List.find?_filter]
      congr 1
      funext entry
      by_cases hentry : entry.1 = name <;> simp [hentry, Ne.symm hname]
    rw [if_neg hname, context?, release, hsame]
    rfl

/-- Under a name that holds nothing there is nothing to release. -/
theorem context?_of_none {other : String} (h : session.context? other = none) (name : String) :
    (if other = name then none else session.context? name) = session.context? name := by
  split
  · next hname => rw [← hname, h]
  · rfl

theorem context?_hold (session : Session) (other name : String) (context : Context) :
    (session.hold other context).context? name
      = if other = name then some context else session.context? name := by
  by_cases hname : other = name
  · rw [if_pos hname, context?, hold, List.find?_cons_of_pos (by exact decide_eq_true hname)]
    rfl
  · have hrelease := context?_release session other name
    rw [if_neg hname] at hrelease ⊢
    rw [← hrelease, context?, hold, List.find?_cons_of_neg (by simpa using hname)]
    rfl

/-- A call changes the invocation under the name that it is about, and no other. -/
theorem context?_step (command : Command) (lifecycle : Lifecycle) (session : Session)
    (call : HookCall) (name : String) :
    (step command lifecycle session call).2.context? name
      = call.heldAfter command lifecycle.tree session.outbox.now name (session.context? name) := by
  cases call with
  | parse other argv =>
    rw [step, HookCall.heldAfter]
    cases command.parse argv with
    | error fault => exact (ite_self _).symm
    | ok parsed => exact context?_hold session other name _
  | make other words args flags =>
    rw [step, HookCall.heldAfter]
    cases lifecycle.tree.lookup words with
    | none => exact (ite_self _).symm
    | some node => exact context?_hold session other name _
  | start other =>
    rw [step, HookCall.heldAfter]
    by_cases hname : other = name
    · subst hname
      rw [if_pos rfl]
      cases hheld : session.context? other with
      | none => exact hheld
      | some context => exact (context?_hold session other other _).trans (if_pos rfl)
    · rw [if_neg hname]
      cases session.context? other with
      | none => rfl
      | some context => exact (context?_hold session other name _).trans (if_neg hname)
  | sleep length => rfl
  | success other =>
    rw [step, HookCall.heldAfter]
    cases hheld : session.context? other with
    | none => exact (context?_of_none hheld name).symm
    | some context => exact context?_release session other name
  | fail other error =>
    rw [step, HookCall.heldAfter]
    cases hheld : session.context? other with
    | none => exact (context?_of_none hheld name).symm
    | some context => exact context?_release session other name
  | failUnparsed arguments error => rfl

end Session

/-! ## Endings in order -/

namespace Session

/-- The endings that a sequence of calls brings about, in order. -/
def endings (command : Command) (lifecycle : Lifecycle) (session : Session) :
    List HookCall → List Ending
  | [] => []
  | call :: calls => (session.ending? call).toList
      ++ endings command lifecycle (step command lifecycle session call).2 calls

/-- A session is a host that dispatches nothing by itself. -/
theorem after_eq_host (command : Command) (lifecycle : Lifecycle) (session : Session)
    (calls : List HookCall) : session.after command lifecycle calls
      = Host.after command lifecycle session (calls.map .hook) := by
  rw [Host.after, List.foldl_map]
  rfl

/-- The reports of its calls are those of the endings. -/
theorem reports_hooks (command : Command) (lifecycle : Lifecycle) (session : Session)
    (calls : List HookCall) : Host.reports command lifecycle session (calls.map .hook)
      = (session.endings command lifecycle calls).map lifecycle.report := by
  induction calls generalizing session with
  | nil => rfl
  | cons call calls ih =>
    rw [List.map_cons, Host.reports, endings, List.map_append, ← ih]
    congr 1
    exact Option.toList_map

theorem after_take_succ (command : Command) (lifecycle : Lifecycle) (session : Session)
    {calls : List HookCall} {place : Nat} {call : HookCall} (hcall : calls[place]? = some call) :
    session.after command lifecycle (calls.take (place + 1))
      = (step command lifecycle (session.after command lifecycle (calls.take place)) call).2 := by
  rw [List.take_add_one, hcall, Option.toList_some, after, List.foldl_append]
  rfl

/-- A host whose dispatcher has time to wait sends, in order, one event for each ending, which
describes it. The invocation that a call ends is the one that the calls under its name made. -/
theorem reports_each_ending (command : Command) (lifecycle : Lifecycle)
    (hversion : lifecycle.dispatcher.version ≠ Dispatcher.devVersion)
    (hceiling : 0 < lifecycle.dispatcher.ceiling) (calls : List HookCall) :
    let session := fun place => start.after command lifecycle (calls.take place)
    List.Forall₂ (fun ending event => event.Describes lifecycle ending)
        (start.endings command lifecycle calls) (start.after command lifecycle calls).outbox.entered
      ∧ (start.after command lifecycle calls).outbox.queued = []
      ∧ ∀ place call, calls[place]? = some call → ∀ name,
        (session (place + 1)).context? name = call.heldAfter command lifecycle.tree
          (session place).outbox.now name ((session place).context? name) := by
  intro session
  have hqueued : (start.after command lifecycle calls).outbox.queued = [] := by
    rw [after_eq_host]
    exact Host.queued_after command hversion hceiling _
  have haccounts : (start.after command lifecycle calls).outbox.Accounts
      ((start.endings command lifecycle calls).map lifecycle.event) := by
    have hhost := Host.accounts_after command hversion (calls.map .hook)
    rw [← after_eq_host, reports_hooks, List.map_map] at hhost
    exact hhost
  -- nothing is left to be entered, so what was spawned is what was entered
  have hentered : (start.after command lifecycle calls).outbox.entered
      = (start.endings command lifecycle calls).map lifecycle.event := by
    rw [← haccounts.spawned, hqueued, List.append_nil]
  refine ⟨?_, hqueued, ?_⟩
  · rw [hentered, List.forall₂_map_right_iff, List.forall₂_same]
    exact fun ending _ => lifecycle.describes_event ending
  · intro place call hcall name
    have hstep := after_take_succ command lifecycle start hcall
    show (start.after command lifecycle (calls.take (place + 1))).context? name = _
    rw [hstep]
    exact context?_step command lifecycle _ call name

/-- One of two invocations fails with a blank error while the other runs. -/
theorem reports_each_ending_interleaved :
    let lifecycle : Lifecycle :=
      ⟨CommandTree.ofCommand Command.sample, ⟨"0.3.1", 5000, .prompt⟩⟩
    let calls := [HookCall.make "a" ["docker", "logs"] ["api", "--help"] Flags.empty, .start "a",
      .make "b" ["docker"] [] Flags.empty, .sleep 70, .fail "b" "\u2003 ", .success "a"]
    lifecycle.dispatcher.version ≠ Dispatcher.devVersion ∧ 0 < lifecycle.dispatcher.ceiling
      ∧ ∃ failure success, (start.after Command.sample lifecycle calls).outbox.entered
          = [failure, success]
        ∧ failure.error = some "unknown error"
        ∧ success.args = ["api"] ∧ success.durationMs = some 70 := by
  intro lifecycle calls
  have hversion : lifecycle.dispatcher.version ≠ Dispatcher.devVersion := by decide
  have hceiling : 0 < lifecycle.dispatcher.ceiling := by decide
  have hendings : start.endings Command.sample lifecycle calls
      = [.failure (.parsed ⟨4, [], Flags.empty, none⟩) "\u2003 ",
          .success ⟨7, ["api", "--help"], Flags.empty, some 0⟩ 70] := by
    decide +kernel
  obtain ⟨hevents, -, -⟩ := reports_each_ending Command.sample lifecycle hversion hceiling calls
  rw [hendings] at hevents
  generalize (start.after Command.sample lifecycle calls).outbox.entered = entered at hevents ⊢
  cases hevents with
  | @cons _ failure _ _ hfailure hrest =>
    cases hrest with
    | @cons _ success _ _ hsuccess hnone =>
      cases hnone
      obtain ⟨-, -, text, htells⟩ := hfailure.result
      obtain ⟨-, -, hduration⟩ := hsuccess.result
      have hblank : Text.saysNothing "\u2003 " = true := by decide
      have htext : text = "unknown error" := htells.blank (List.all_eq_true.1 hblank)
      refine ⟨hversion, hceiling, failure, success, rfl, ?_, ?_, hduration⟩
      · rw [htells.error, htext]
      · rw [hsuccess.args]
        decide

end Session

end CommandTelemetry
