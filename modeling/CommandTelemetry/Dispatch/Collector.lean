import CommandTelemetry.Dispatch.Outbox
import CommandTelemetry.Report.TelemetryError
import CommandTelemetry.Url.Reader

/-!
# Collectors

Events are sent to a collector by one request over the web. The endpoint has to be a URL with a host
that such requests can be made to, and the collector has to answer with a status of success.

* `Collector.send` is one send to an endpoint.
-/

namespace CommandTelemetry

/-- What answers at an endpoint. -/
inductive Collector where
  /-- Nobody answers. -/
  | unreachable
  /-- Every request is answered with this status. -/
  | answering (status : Nat)
deriving DecidableEq, Repr

namespace Collector

/-- The error for an endpoint that no request can be made to. A text that is no URL cannot be
shown. -/
def unusable : Option Url → TelemetryError
  | none => .transport "builder error"
  | some url => .transport ("builder error for url (" ++ url.text ++ ")")

/-- The URL that a request to an endpoint is made to. -/
def target (endpoint : String) : Except TelemetryError Url :=
  match (Url.read? endpoint).map Url.withoutUser with
  | none => .error (unusable none)
  | some url =>
    if url.hasHost && url.isWeb && url.isRequestable then .ok url else .error (unusable (some url))

/-- The status is one of success. -/
def isSuccess (status : Nat) : Bool := 200 ≤ status && status < 300

/-- Sends one event to an endpoint. -/
def send (collector : Collector) (endpoint : String) : Except TelemetryError Unit := do
  let url ← target endpoint
  match collector with
  | .unreachable => throw (.transport ("error sending request for url (" ++ url.text ++ ")"))
  | .answering status => if isSuccess status then return () else throw (.rejected status)

/-- The way to a collector over which events are sent at once. -/
def transport (collector : Collector) (endpoint : String) : Transport :=
  match collector.send endpoint with
  | .ok _ => .prompt
  | .error _ => .failing

end Collector

end CommandTelemetry
