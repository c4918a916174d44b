import BearerSession.Http.Response

/-!
# Transports

A transport carries a request to the backend and brings back a response or a failure. It works
on a network state `ν` and may leave a request in flight, described by a value of `φ`: sending
gives the reply at once or the flight, and each poll of a flight gives the reply or the flight
that is left. A transport never reads statuses; turning a response outside 2xx into a failure
is the client's work.
-/

namespace BearerSession.Client

/-- What a transport brings back. -/
abbrev Reply := Except Failure Http.Response

/-- Something that may still be under way: a state to poll again, or its value. -/
inductive Poll (σ α : Type) where
  | pending (state : σ)
  | ready (value : α)

/-- A transport over the network state `ν` whose requests in flight are `φ`. -/
structure Transport (ν φ : Type) where
  /-- Sends a request. -/
  send : Http.Request → ν → ν × Poll φ Reply
  /-- Polls a request in flight. -/
  poll : φ → ν → ν × Poll φ Reply

end BearerSession.Client
