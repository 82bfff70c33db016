import CommandTelemetry.Invocation.Reported

/-!
# Invocation contexts

What is kept of an invocation between its start and its end. The clock is the one of the outbox
that sends events, in milliseconds.
-/

namespace CommandTelemetry

/-- An invocation that was read and has not ended. -/
structure Context where
  node : NodeId
  args : List String
  flags : Flags
  /-- The time of the last start, if there was one. -/
  startedAt : Option Nat
deriving DecidableEq

namespace Context

/-- An invocation of a command that has not started. -/
def make (node : NodeId) (args : List String) (flags : Flags) : Context := ⟨node, args, flags, none⟩

/-- The invocation that a command line stands for. -/
def ofParsed (tree : CommandTree) (parsed : Parsed) : Context :=
  let (id, level) := tree.resolve parsed
  match tree.node? id with
  | some node => make id (node.positionalArgs level.records) (node.explicitFlags level.records)
  | none => make id [] Flags.empty

/-- The invocation starts at this time. -/
def start (context : Context) (now : Nat) : Context := { context with startedAt := some now }

/-- The time since the last start, none for an invocation that never started. -/
def elapsed (context : Context) (now : Nat) : Nat := (context.startedAt.map (now - ·)).getD 0

end Context

end CommandTelemetry
