import BearerSession.Client.Transport
import BearerSession.Http.Method

/-!
# A scripted backend

A backend for simulation answers from a list of routes. Every request is logged as sent. A
route matches a request when each condition it states holds: the method (compared in upper
case), the target, the first `Authorization` header (or its absence), the attempt, the JSON
body, and a limit on the number of requests it has matched. The first route that matches
answers and counts the request.

Two kinds of backend differ in when and how they answer.

* `scripted`: the route is chosen when the request is sent. Its answer, a response or a
  transport failure, arrives after the route's delay in polls; no matching route is the
  connection failure ``no route for `GET /x` ``.
* `gated`: requests to one target, the gate, wait until the gate opens; the route is chosen
  when the request is handled, its delay is ignored, and no matching route is a 404 with an
  empty body. An unreachable backend fails every handled request with "connection refused".
-/

namespace BearerSession.Simulation

open Http

/-- A route of a scripted backend: conditions on the request, and the answer. -/
structure Route where
  method : Option String := none
  target : Option String := none
  auth : Option String := none
  authAbsent : Bool := false
  attempt : Option Attempt := none
  body : Option Json.Value := none
  times : Option Nat := none
  delay : Nat := 0
  answer : Client.Reply

/-- How a backend answers. -/
inductive Handling where
  /-- Chooses the route when a request is sent and answers after the route's delay. -/
  | scripted
  /-- Holds requests to `gate` until it opens, then answers at once; `unreachable` fails all. -/
  | gated (gate : Option String) (unreachable : Bool)

/-- A request in flight at the backend. -/
inductive Flight where
  /-- The answer arrives once `polls` more polls have passed. -/
  | waiting (answer : Client.Reply) (polls : Nat)
  /-- The request waits for the gate to open. -/
  | held (request : Request)

/-- A backend: its routes with their use counts, the log of requests, and its gate. -/
structure Backend where
  routes : List Route
  uses : List Nat := routes.map fun _ => 0
  handling : Handling := .scripted
  gateOpen : Bool := false
  log : List Request := []

namespace Route

/-- Whether a route matches a request, given the number of requests it matched so far. -/
def accepts (r : Route) (used : Nat) (q : Request) : Bool :=
  (r.method.all fun m => Method.asciiUpper m == q.method.name) &&
  (r.target.all (· == q.target)) &&
  (r.auth.all fun a => q.headerValue? "authorization" == some a) &&
  (!r.authAbsent || (q.headerValue? "authorization").isNone) &&
  (r.attempt.all (· == q.attempt)) &&
  (r.body.all fun b => q.body == some b) &&
  (r.times.all (used < ·))

end Route

namespace Backend

/-- The index of the first route that matches a request. -/
def choose (b : Backend) (q : Request) : Option Nat :=
  ((b.routes.zip b.uses).zipIdx.find? fun ((r, used), _) => r.accepts used q).map (·.2)

/-- The backend with route `i` counted once more. -/
def count (b : Backend) (i : Nat) : Backend :=
  { b with uses := b.uses.modify i (· + 1) }

/-- The answer of the first matching route, which is counted; `otherwise` when none matches. -/
def answer (b : Backend) (q : Request) (otherwise : Client.Reply) :
    Backend × Route ⊕ Client.Reply :=
  match b.choose q with
  | some i =>
    match b.routes[i]? with
    | some r => .inl (b.count i, r)
    | none => .inr otherwise
  | none => .inr otherwise

/-- Handles a request of a gated backend. -/
def handle (b : Backend) (q : Request) (unreachable : Bool) : Backend × Client.Reply :=
  if unreachable then (b, .error (.transport (.connection "connection refused")))
  else
    match b.answer q (.ok { status := 404 }) with
    | .inl (b', r) => (b', r.answer)
    | .inr reply => (b, reply)

/-- Receives a request. -/
def send (q : Request) (b : Backend) : Backend × Client.Poll Flight Client.Reply :=
  let b := { b with log := b.log ++ [q] }
  match b.handling with
  | .scripted =>
    let missing : Client.Reply := .error (.transport (.connection
      ("no route for `" ++ q.method.name ++ " " ++ q.target ++ "`")))
    match b.answer q missing with
    | .inl (b', r) =>
      if r.delay = 0 then (b', .ready r.answer)
      else (b', .pending (.waiting r.answer (r.delay - 1)))
    | .inr reply => (b, .ready reply)
  | .gated gate unreachable =>
    if gate == some q.target && !b.gateOpen then (b, .pending (.held q))
    else
      let (b', reply) := b.handle q unreachable
      (b', .ready reply)

/-- Polls a request in flight. -/
def poll (f : Flight) (b : Backend) : Backend × Client.Poll Flight Client.Reply :=
  match f with
  | .waiting answer 0 => (b, .ready answer)
  | .waiting answer (n + 1) => (b, .pending (.waiting answer n))
  | .held q =>
    match b.handling with
    | .gated _ unreachable =>
      if b.gateOpen then
        let (b', reply) := b.handle q unreachable
        (b', .ready reply)
      else (b, .pending f)
    | .scripted => (b, .pending f)

/-- The backend as a transport. -/
def transport : Client.Transport Backend Flight where
  send := send
  poll := poll

/-- The requests logged for a target. -/
def callsTo (b : Backend) (target : String) : List Request :=
  b.log.filter (·.target == target)

end Backend

end BearerSession.Simulation
