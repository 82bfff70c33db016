import CommandTelemetry.Program.Run
import CommandTelemetry.Proofs.Dispatch.OutboxTheorems
import CommandTelemetry.Proofs.Invocation.ResolveTheorems
import CommandTelemetry.Proofs.Program.MessageTheorems
import CommandTelemetry.Proofs.Program.RequestTheorems

/-!
# Runs and their reports

What a run of the program shows, and what is sent of it.

* `RunResult.shown` is what a run shows, its reports apart, and `Program.shown_run_eq` says that it
  is the same over all dispatchers;
* `RunResult.Reports` says that a run sent one event and shows what the event says, and
  `Program.run_reports` that every run does so unless it shows a page.
-/

namespace CommandTelemetry

/-- What a run shows to those who started it. -/
structure Shown where
  /-- The run ended in one of the tracked ways, and not by showing a page. -/
  isTracked : Bool
  code : Nat
  output : String
  errors : String
  files : FileSystem

/-- What a run shows, its reports apart. -/
def RunResult.shown (result : RunResult) : Shown :=
  ⟨result.isTracked, result.code, result.output, result.errors, result.files⟩

namespace Program

/-! ## The ends of a run -/

section

variable {argv : List String} (dispatcher : Dispatcher) (world : World) (outbox : Outbox)

/-- The commands of the program, and where their reports go. -/
def lifecycle (dispatcher : Dispatcher) : Lifecycle := ⟨CommandTree.ofCommand command, dispatcher⟩

theorem run_of_error {error : ParseError} (h : command.parse argv = .error error) :
    run dispatcher argv world outbox
      = stopAt (lifecycle dispatcher) world outbox argv.tail error := by
  rw [run, h]
  rfl

theorem run_of_noRequest {parsed : Parsed} (h : command.parse argv = .ok parsed)
    (hrequest : Request.ofParsed? parsed = none) :
    run dispatcher argv world outbox = failed (lifecycle dispatcher) outbox (heading argv.tail)
      world.files (.unparsed argv.tail) noRequest := by
  rw [run, h]
  dsimp only
  rw [hrequest]
  rfl

theorem run_of_request {parsed : Parsed} {request : Request} (h : command.parse argv = .ok parsed)
    (hrequest : Request.ofParsed? parsed = some request) :
    run dispatcher argv world outbox
      = perform (lifecycle dispatcher) world outbox argv.tail parsed request := by
  rw [run, h]
  dsimp only
  rw [hrequest]
  rfl

end

/-! ## Reports are not looked at -/

section

variable (first second : Lifecycle) (outbox other : Outbox) (world : World)
  (arguments : List String)

/-- A failure shows its error and nothing else. -/
theorem shown_failed (output : String) (files : FileSystem) (invocation : FailedInvocation)
    (error : String) : (failed first outbox output files invocation error).shown
      = ⟨true, Lifecycle.failureCode, output, Lifecycle.errorLine error, files⟩ := rfl

theorem shown_stopAt (error : ParseError) : (stopAt first world outbox arguments error).shown
      = (stopAt second world other arguments error).shown := by
  cases error with
  | inconsistent level => rfl
  | stopped stop =>
    cases stop with
    | page page => cases page <;> rfl
    | fault fault => rfl

/-- The two lifecycles keep different contexts, but no context is looked at. -/
theorem shown_perform (parsed : Parsed) (request : Request) :
    (perform first world outbox arguments parsed request).shown
      = (perform second world other arguments parsed request).shown := by
  unfold perform
  dsimp only
  cases (execute world request).error with
  | none => rfl
  | some error => rw [shown_failed, shown_failed]

end

/-- Neither the dispatcher of a run nor what was sent before shows in it, and the answer to a
failure says nothing but its error. -/
theorem shown_run_eq (first second : Dispatcher) (argv : List String) (world : World)
    (outbox other : Outbox) :
    (run first argv world outbox).shown = (run second argv world other).shown
      ∧ ∀ (dispatcher : Dispatcher) (tree : CommandTree) (invocation : FailedInvocation)
          (error : String) (outbox : Outbox),
        (Lifecycle.onFailure ⟨tree, dispatcher⟩ invocation error outbox).1
          = ⟨1, "Error: " ++ error ++ "\n"⟩ := by
  refine ⟨?_, fun _ _ _ _ _ => rfl⟩
  cases hparse : command.parse argv with
  | error error =>
    rw [run_of_error first world outbox hparse, run_of_error second world other hparse]
    exact shown_stopAt _ _ _ _ _ _ error
  | ok parsed =>
    cases hrequest : Request.ofParsed? parsed with
    | none =>
      rw [run_of_noRequest first world outbox hparse hrequest,
        run_of_noRequest second world other hparse hrequest, shown_failed, shown_failed]
    | some request =>
      rw [run_of_request first world outbox hparse hrequest,
        run_of_request second world other hparse hrequest]
      exact shown_perform _ _ _ _ _ _ parsed request

end Program

/-! ## One event for each run -/

namespace Program

/-- A request that stopped with an error says why. -/
theorem saysNothing_execute {world : World} {request : Request} {error : String}
    (h : (execute world request).error = some error) : Text.saysNothing error = false := by
  cases request with
  | welcome => cases h
  | version => cases h
  | createProject name template directory =>
    rw [execute, createProject] at h
    split at h
    · cases h
    · cases h
      exact ScaffoldError.saysNothing_message _
  | services request =>
    rw [execute, askServices] at h
    split at h
    · cases h
    · cases h
      exact ServiceError.saysNothing_message _

end Program

/-- The run sent this one event, after those that were left to be sent, and shows what it says. -/
structure RunResult.Reports (result : RunResult) (before : Outbox) (event : Event) : Prop where
  tracked : result.isTracked = true
  entered : result.outbox.entered = before.entered ++ before.queued ++ [event]
  queued : result.outbox.queued = []
  code : result.code = 0 ∨ result.code = 1
  success : result.code = 0 ↔ event.success = true
  error : result.code = 1 →
    ∃ error, event.error = some error ∧ result.errors = "Error: " ++ error ++ "\n"

namespace Program

variable {dispatcher : Dispatcher} {outbox : Outbox}

/-- A run that shows a page reports nothing. -/
theorem stopAt_page (page : Page) (lifecycle : Lifecycle) (world : World)
    (arguments : List String) :
    (stopAt lifecycle world outbox arguments (.stopped (.page page))).isTracked = false
      ∧ (stopAt lifecycle world outbox arguments (.stopped (.page page))).outbox = outbox := by
  cases page <;> exact ⟨rfl, rfl⟩

/-- The declarations of the program agree with each other, so every command line is read. -/
theorem isConsistent_command : command.isConsistent = true := by decide +kernel

theorem reports_failed (hversion : dispatcher.version ≠ Dispatcher.devVersion)
    (hceiling : 0 < dispatcher.ceiling) {error : String} (herror : Text.saysNothing error = false)
    (output : String) (files : FileSystem) (invocation : FailedInvocation) :
    (failed (lifecycle dispatcher) outbox output files invocation error).Reports outbox
      (Event.ofReport ((lifecycle dispatcher).failureReport invocation error)
        dispatcher.version) := by
  have houtcome : ((lifecycle dispatcher).failureReport invocation error).outcome
      = .failedWith error := by
    cases invocation <;> simp [Lifecycle.failureReport, Outcome.failed, herror]
  constructor
  · rfl
  · exact Dispatcher.entered_dispatch hversion hceiling _ _
  · exact Dispatcher.queued_dispatch hversion hceiling _ _
  · exact Or.inr rfl
  · rw [Event.ofReport, houtcome]
    exact ⟨fun h => absurd h Nat.one_ne_zero, fun h => absurd h Bool.false_ne_true⟩
  · intro _
    refine ⟨error, ?_, rfl⟩
    rw [Event.ofReport, houtcome]

/-- What a run reports whose command line was read: the command that ran, and what was typed for
it, however the run ended. -/
theorem reports_perform (hversion : dispatcher.version ≠ Dispatcher.devVersion)
    (hceiling : 0 < dispatcher.ceiling) (world : World) (arguments : List String)
    (parsed : Parsed) (request : Request) :
    ∃ event, (perform (lifecycle dispatcher) world outbox arguments parsed request).Reports outbox
        event
      ∧ event.command = (CommandTree.ofCommand command).path
          (Context.ofParsed (CommandTree.ofCommand command) parsed).node
      ∧ event.args = Invocation.withoutHelpWords
          (Context.ofParsed (CommandTree.ofCommand command) parsed).args
      ∧ event.flags = (Context.ofParsed (CommandTree.ofCommand command) parsed).flags := by
  unfold perform
  dsimp only
  cases herror : (execute world request).error with
  | some error =>
    exact ⟨_, reports_failed hversion hceiling (saysNothing_execute herror) _ _ _, rfl, rfl, rfl⟩
  | none =>
    refine ⟨_, ⟨rfl, Dispatcher.entered_dispatch hversion hceiling _ _,
      Dispatcher.queued_dispatch hversion hceiling _ _, Or.inl rfl, ?_, ?_⟩, rfl, rfl, rfl⟩
    · exact ⟨fun _ => rfl, fun _ => rfl⟩
    · intro h
      cases h

/-- Every run that shows no page sends one event, and ends with code, error and command as the event
says. -/
theorem run_reports (hversion : dispatcher.version ≠ Dispatcher.devVersion)
    (hceiling : 0 < dispatcher.ceiling) (argv : List String) (world : World) (outbox : Outbox) :
    let tree := CommandTree.ofCommand command
    let result := run dispatcher argv world outbox
    match command.parse argv with
    | .error (.inconsistent _) => False
    | .error (.stopped (.page _)) => result.isTracked = false ∧ result.outbox = outbox
    | .error (.stopped (.fault _)) =>
      ∃ event, result.Reports outbox event ∧ event.success = false
        ∧ event.command = tree.path (tree.find argv.tail)
        ∧ event.args = Invocation.withoutHelpWords argv.tail
        ∧ event.flags = Flags.empty
    | .ok parsed =>
      ∃ event node, result.Reports outbox event
        ∧ tree.node? (tree.resolve parsed).1 = some node
        ∧ event.command = tree.path (tree.resolve parsed).1
        ∧ event.args
          = Invocation.withoutHelpWords (node.positionalArgs (tree.resolve parsed).2.records)
        ∧ event.flags = node.explicitFlags (tree.resolve parsed).2.records := by
  intro tree result
  cases hparse : command.parse argv with
  | error error =>
    have hresult : result = stopAt (lifecycle dispatcher) world outbox argv.tail error :=
      run_of_error dispatcher world outbox hparse
    rw [hresult]
    cases error with
    | inconsistent level =>
      exact Command.parse_ne_inconsistent isConsistent_command level hparse
    | stopped stop =>
      cases stop with
      | page page => exact stopAt_page page _ _ _
      | fault fault =>
        exact ⟨_, reports_failed hversion hceiling fault.saysNothing_headline _ _ _, rfl, rfl,
          rfl, rfl⟩
  | ok parsed =>
    obtain ⟨request, hrequest⟩ := Request.exists_ofParsed? hparse
    have hresult : result = perform (lifecycle dispatcher) world outbox argv.tail parsed request :=
      run_of_request dispatcher world outbox hparse hrequest
    obtain ⟨node, hnode⟩ := CommandTree.node?_resolve command parsed
    obtain ⟨event, hreports, hcommand, hargs, hflags⟩ :=
      reports_perform hversion hceiling world argv.tail parsed request
    rw [Context.ofParsed_eq hnode] at hcommand hargs hflags
    rw [hresult]
    exact ⟨event, node, hreports, hnode, hcommand, hargs, hflags⟩

/-- A run whose command line was read and whose request failed. -/
theorem run_reports_without_docker :
    let dispatcher : Dispatcher := ⟨"0.3.1", 5000, .failing⟩
    let world : World := ⟨⟨[], []⟩, Environment.empty, none⟩
    let argv := ["acontext", "docker", "logs", "--follow", "api"]
    dispatcher.version ≠ Dispatcher.devVersion ∧ 0 < dispatcher.ceiling
      ∧ ∃ parsed event, command.parse argv = .ok parsed
        ∧ (run dispatcher argv world Outbox.start).Reports Outbox.start event
        ∧ event.command = "docker.logs" ∧ event.args = ["api"]
        ∧ event.flags.pairs = [("follow", "true")] := by
  intro dispatcher world argv
  have hversion : dispatcher.version ≠ Dispatcher.devVersion := by decide
  have hceiling : 0 < dispatcher.ceiling := by decide
  obtain ⟨parsed, hparse, hcontext⟩ : ∃ parsed, command.parse argv = .ok parsed
      ∧ let context := Context.ofParsed (CommandTree.ofCommand command) parsed
        (CommandTree.ofCommand command).path context.node = "docker.logs"
          ∧ Invocation.withoutHelpWords context.args = ["api"]
          ∧ context.flags.pairs = [("follow", "true")] := Command.exists_parse (by decide +kernel)
  -- what the command line is made of is not looked at any more
  clear_value argv
  have hrun := run_reports hversion hceiling argv world Outbox.start
  rw [hparse] at hrun
  obtain ⟨event, node, hreports, hnode, hcommand, hargs, hflags⟩ := hrun
  rw [Context.ofParsed_eq hnode] at hcontext
  obtain ⟨hpath, hwords, hpairs⟩ := hcontext
  rw [← hflags] at hpairs
  exact ⟨hversion, hceiling, parsed, event, hparse, hreports, hcommand.trans hpath,
    hargs.trans hwords, hpairs⟩

end Program

end CommandTelemetry
