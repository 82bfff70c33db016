import CommandTelemetry.Report.Event

/-!
# The outbox

Sends run beside their caller on one clock. A send is queued when it is spawned and entered when the
caller next waits; it ends when its delay is over, whatever became of the caller, and never if its
transport never answers. The clock moves only while the caller waits, and no wait and no delay is
longer than thirty years.

* `Timer.length` is how long a wait takes;
* `Transport` says how and when each send ends;
* `Outbox.wait` lets queued sends enter and moves the clock, `Outbox.sleep` is a wait of its own.
-/

namespace CommandTelemetry

namespace Timer

/-- The longest time that passes in one go: thirty years, in milliseconds. -/
def longest : Nat := 30 * 365 * 24 * 60 * 60 * 1000

/-- How long it takes to wait for a time. -/
def length (wanted : Nat) : Nat := min wanted longest

end Timer

/-- How a send ends. -/
inductive SendResult where
  /-- The collector took the event. -/
  | accepted
  /-- The collector or the way to it failed. -/
  | failed
  /-- The send ended without saying how. -/
  | died
deriving DecidableEq, Repr

/-- What becomes of one send: how it ends, and after how many milliseconds, if ever. -/
structure Answer where
  result : SendResult
  delay : Option Nat
deriving DecidableEq, Repr

/-- A way to send events: what becomes of each send, given how many were entered before it. -/
structure Transport where
  answer : Nat → Event → Answer

namespace Transport

/-- Every send comes to the same. -/
def always (answer : Answer) : Transport := ⟨fun _ _ => answer⟩

/-- Every event is taken at once. -/
def prompt : Transport := always ⟨.accepted, some 0⟩

/-- Every event is refused at once. -/
def failing : Transport := always ⟨.failed, some 0⟩

/-- Every send dies at once. -/
def dying : Transport := always ⟨.died, some 0⟩

/-- Every event is taken after a delay. -/
def stalling (delay : Nat) : Transport := always ⟨.accepted, some delay⟩

end Transport

/-- A send that was entered. -/
structure Send where
  event : Event
  enteredAt : Nat
  /-- The time at which it ends, if it does. -/
  due : Option Nat
deriving DecidableEq

namespace Send

/-- A send that is entered now. -/
def enter (now : Nat) (event : Event) (answer : Answer) : Send :=
  ⟨event, now, answer.delay.map fun delay => now + Timer.length delay⟩

/-- The send has ended by this time. -/
def endsBy (send : Send) (now : Nat) : Bool := send.due.any (· ≤ now)

end Send

/-- The sends of one caller and its clock, in milliseconds. -/
structure Outbox where
  now : Nat
  /-- Spawned and not entered, in the order of spawning. -/
  queued : List Event
  /-- Entered and not ended. -/
  running : List Send
  /-- Ended, in the order in which this was seen. -/
  ended : List Send
  /-- All events that were entered, in order. -/
  entered : List Event
deriving DecidableEq

namespace Outbox

/-- Nothing was spawned yet. -/
def start : Outbox := ⟨0, [], [], [], []⟩

/-- How many sends were entered. -/
def attempts (outbox : Outbox) : Nat := outbox.entered.length

/-- A send has ended by itself. -/
def completed (outbox : Outbox) : Bool := !outbox.ended.isEmpty

/-- One more send waits to be entered. -/
def spawn (outbox : Outbox) (event : Event) : Outbox :=
  { outbox with queued := outbox.queued ++ [event] }

/-- The sends of everything queued, as they are entered now. -/
def entering (transport : Transport) (outbox : Outbox) : List Send :=
  outbox.queued.mapIdx fun place event =>
    Send.enter outbox.now event (transport.answer (outbox.attempts + place) event)

/-- Everything queued is entered. -/
def enterQueued (transport : Transport) (outbox : Outbox) : Outbox :=
  { outbox with
    queued := []
    running := outbox.running ++ outbox.entering transport
    entered := outbox.entered ++ outbox.queued }

/-- The clock moves to a time, and what is due by then ends. -/
def advance (time : Nat) (outbox : Outbox) : Outbox :=
  { outbox with
    now := time
    running := outbox.running.filter fun send => !send.endsBy time
    ended := outbox.ended ++ outbox.running.filter (·.endsBy time) }

/-- The caller waits this long. -/
def wait (transport : Transport) (length : Nat) (outbox : Outbox) : Outbox :=
  (outbox.enterQueued transport).advance (outbox.now + length)

/-- The caller sleeps. A sleep of no length does not wait. -/
def sleep (transport : Transport) (length : Nat) (outbox : Outbox) : Outbox :=
  if length = 0 then outbox else outbox.wait transport (Timer.length length)

end Outbox

end CommandTelemetry
