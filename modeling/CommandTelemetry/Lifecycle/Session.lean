import CommandTelemetry.CommandLine.Parse
import CommandTelemetry.Lifecycle.Hooks

/-!
# Sessions

A host that holds any number of invocations at a time, each under a name, and calls the hooks for
them in any order. An invocation is given up with the call that ends it.

* `HookCall` is one call, `Session.step` what it answers and what it leaves behind;
* `Session.run` is a whole sequence of calls, `Session.after` the session that it leaves behind.
-/

namespace CommandTelemetry

/-- One call of a host. -/
inductive HookCall where
  /-- A command line is read and held under a name. -/
  | parse (name : String) (argv : List String)
  /-- An invocation of the command at the end of some words is held under a name. -/
  | make (name : String) (words args : List String) (flags : Flags)
  /-- An invocation starts. -/
  | start (name : String)
  /-- Time passes. -/
  | sleep (length : Nat)
  /-- An invocation ends well. -/
  | success (name : String)
  /-- An invocation ends with an error. -/
  | fail (name error : String)
  /-- A command line that could not be read ends with an error. -/
  | failUnparsed (arguments : List String) (error : String)
deriving DecidableEq

/-- What a call answers. -/
inductive HookReply where
  /-- The invocation held under the name after the call. -/
  | held (context : Context)
  /-- The command line could not be read. -/
  | refused (error : ParseError)
  /-- No command is at the end of these words. -/
  | noCommand
  /-- Nothing is held under the name. -/
  | noContext
  /-- Time passed. -/
  | slept
  /-- The invocation ended well, and its report came this far. -/
  | succeeded (outcome : DispatchOutcome)
  /-- The invocation failed. -/
  | failed (response : FailureResponse)

/-- A host with the invocations that it holds. -/
structure Session where
  contexts : List (String × Context)
  outbox : Outbox

namespace Session

/-- A session that holds nothing. -/
def start : Session := ⟨[], Outbox.start⟩

/-- The invocation held under a name. -/
def context? (session : Session) (name : String) : Option Context :=
  (session.contexts.find? (·.1 = name)).map (·.2)

/-- The session without the invocation held under a name. -/
def release (session : Session) (name : String) : Session :=
  { session with contexts := session.contexts.filter (·.1 ≠ name) }

/-- The session with an invocation under a name, in place of the one that was there. -/
def hold (session : Session) (name : String) (context : Context) : Session :=
  { session with contexts := (name, context) :: (session.release name).contexts }

/-- What a call answers, and the session after it. -/
def step (command : Command) (lifecycle : Lifecycle) (session : Session) :
    HookCall → HookReply × Session
  | .parse name argv => match command.parse argv with
    | .error error => (.refused error, session)
    | .ok parsed =>
      let context := Context.ofParsed lifecycle.tree parsed
      (.held context, session.hold name context)
  | .make name words args flags => match lifecycle.tree.lookup words with
    | none => (.noCommand, session)
    | some node =>
      let context := Context.make node args flags
      (.held context, session.hold name context)
  | .start name => match session.context? name with
    | none => (.noContext, session)
    | some context =>
      let context := Lifecycle.onStart context session.outbox
      (.held context, session.hold name context)
  | .sleep length =>
    (.slept,
      { session with outbox := session.outbox.sleep lifecycle.dispatcher.transport length })
  | .success name => match session.context? name with
    | none => (.noContext, session)
    | some context =>
      let (outcome, outbox) := lifecycle.onSuccess context session.outbox
      (.succeeded outcome, { session.release name with outbox })
  | .fail name error => match session.context? name with
    | none => (.noContext, session)
    | some context =>
      let (response, outbox) := lifecycle.onFailure (.parsed context) error session.outbox
      (.failed response, { session.release name with outbox })
  | .failUnparsed arguments error =>
    let (response, outbox) := lifecycle.onFailure (.unparsed arguments) error session.outbox
    (.failed response, { session with outbox })

/-- What a sequence of calls answers, each with the session after it. -/
def run (command : Command) (lifecycle : Lifecycle) (session : Session) :
    List HookCall → List (HookReply × Session)
  | [] => []
  | call :: calls =>
    let answer := step command lifecycle session call
    answer :: run command lifecycle answer.2 calls

/-- The session after a sequence of calls. -/
def after (command : Command) (lifecycle : Lifecycle) (session : Session)
    (calls : List HookCall) : Session :=
  calls.foldl (fun session call => (step command lifecycle session call).2) session

end Session

end CommandTelemetry
