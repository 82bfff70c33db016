/-!
# Durations

Lengths of time in whole nanoseconds, and the whole milliseconds that a report gives of them.
-/

namespace CommandTelemetry

/-- A length of time. -/
structure Duration where
  nanos : Nat
deriving DecidableEq, Repr

namespace Duration

/-- A number of whole milliseconds. -/
def ofMillis (ms : Nat) : Duration := ⟨ms * 1000000⟩

/-- Seconds and nanoseconds together. -/
def ofSeconds (secs nanos : Nat) : Duration := ⟨secs * 1000000000 + nanos⟩

/-- The largest number of milliseconds that a report can give. -/
def reportableMillis : Nat := Nat.pow 2 64 - 1

/-- The whole milliseconds, no more than a report can give. -/
def millis (d : Duration) : Nat := min (d.nanos / 1000000) reportableMillis

end Duration

end CommandTelemetry
