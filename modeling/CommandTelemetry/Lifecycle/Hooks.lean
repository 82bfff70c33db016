import CommandTelemetry.Command.Walk
import CommandTelemetry.Dispatch.Dispatcher
import CommandTelemetry.Invocation.Context

/-!
# Lifecycle hooks

The points at which a host program reports an invocation: it starts, and it ends once, well or
badly. A failed invocation ends with a fixed exit code and one printed line, whatever becomes of its
report.

* `Lifecycle.onSuccess` and `Lifecycle.onFailure` are the two ends;
* `Lifecycle.successReport` and `Lifecycle.failureReport` are what they report.
-/

namespace CommandTelemetry

/-- A failed invocation, as far as it got before its error. -/
inductive FailedInvocation where
  /-- The command line was read, and the command stopped with an error. -/
  | parsed (context : Context)
  /-- The command line could not be read; only its arguments are known. -/
  | unparsed (arguments : List String)
deriving DecidableEq

/-- What a host does after a failure: the line it prints, and the code it exits with. -/
structure FailureResponse where
  code : Nat
  printed : String
deriving DecidableEq, Repr

/-- The commands of a host and the way its reports take. -/
structure Lifecycle where
  tree : CommandTree
  dispatcher : Dispatcher

namespace Lifecycle

/-- The exit code of a host after a failure. -/
def failureCode : Nat := 1

/-- The line that is printed for an error. -/
def errorLine (error : String) : String := "Error: " ++ error ++ "\n"

/-- The report of an invocation that ends well now. -/
def successReport (lifecycle : Lifecycle) (context : Context) (now : Nat) : Report where
  command := lifecycle.tree.path context.node
  args := Invocation.withoutHelpWords context.args
  flags := context.flags
  outcome := .succeeded (Duration.ofMillis (context.elapsed now))

/-- The report of a failed invocation. Without a command line that was read, its arguments tell
which command was meant. -/
def failureReport (lifecycle : Lifecycle) (invocation : FailedInvocation) (error : String) :
    Report :=
  match invocation with
  | .parsed context =>
    { command := lifecycle.tree.path context.node
      args := Invocation.withoutHelpWords context.args
      flags := context.flags
      outcome := Outcome.failed error }
  | .unparsed arguments =>
    { command := lifecycle.tree.path (lifecycle.tree.find arguments)
      args := Invocation.withoutHelpWords arguments
      flags := Flags.empty
      outcome := Outcome.failed error }

/-- The invocation starts. -/
def onStart (context : Context) (outbox : Outbox) : Context := context.start outbox.now

/-- The invocation ended well. -/
def onSuccess (lifecycle : Lifecycle) (context : Context) (outbox : Outbox) :
    DispatchOutcome × Outbox :=
  lifecycle.dispatcher.dispatch (lifecycle.successReport context outbox.now) outbox

/-- The invocation failed with this error. What became of its report is not looked at. -/
def onFailure (lifecycle : Lifecycle) (invocation : FailedInvocation) (error : String)
    (outbox : Outbox) : FailureResponse × Outbox :=
  (⟨failureCode, errorLine error⟩,
    (lifecycle.dispatcher.dispatch (lifecycle.failureReport invocation error) outbox).2)

end Lifecycle

end CommandTelemetry
