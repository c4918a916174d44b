import BearerSession.Client.Exchange

/-!
# Tasks sharing a client

Many tasks may use one client at once: each sends a request, obtains a fresh token for a
refused one, or renews whatever token is stored. A task is suspended only where it waits: on a
request in flight at the transport, or as a follower waiting for its wave. Everything else it
does, reading the store, joining a wave, settling it, happens at once, between two such
points. A `Pool` holds the client and its tasks, and every order of their steps is a run:
at each step one task starts, or one running task is polled once, or one running task is
dropped where it waits (`Pool.step`). Dropping the leader of a wave abandons the wave.

The tasks share the transport through a `Ledger`, which keeps every request given to the
transport with the task that gave it, and every reply with the place of its request; this is
what the backend sees of a run.

`Pool.phase` is what the coordinator sees of a task: outside any wave, leading the running
one, or following it with a ticket.
-/

namespace BearerSession.Client

variable {ν φ : Type}

/-- What the transport was given and gave back, in order: every request with the task that
gave it, and every reply with the place of its request among them. -/
structure Ledger where
  sent : List (Nat × Http.Request) := []
  replies : List (Nat × Reply) := []

namespace Ledger

/-- Puts down a request given by task `k`. -/
def send (l : Ledger) (k : Nat) (q : Http.Request) : Ledger := { l with sent := l.sent ++ [(k, q)] }

/-- Puts down the reply to the request at place `i`. -/
def reply (l : Ledger) (i : Nat) (r : Reply) : Ledger := { l with replies := l.replies ++ [(i, r)] }

end Ledger

/-- The transport `tr` as task `k` uses it, keeping the ledger beside the network state. A
request in flight carries the place of its entry, where its reply is put down when it comes. -/
def Transport.logged (tr : Transport ν φ) (k : Nat) : Transport (ν × Ledger) (Nat × φ) where
  send q n :=
    let i := n.2.sent.length
    match tr.send q n.1 with
    | (net, .pending f) => ((net, n.2.send k q), .pending (i, f))
    | (net, .ready r) => ((net, (n.2.send k q).reply i r), .ready r)
  poll f n :=
    match tr.poll f.2 n.1 with
    | (net, .pending g) => ((net, n.2), .pending (f.1, g))
    | (net, .ready r) => ((net, n.2.reply f.1 r), .ready r)

/-- What a task asks of the client. -/
inductive Call where
  /-- Sends a request; with `renews`, the stored token goes with it and a 401 renews it. -/
  | send (request : Http.Request) (renews : Bool)
  /-- Obtains a fresh token for a caller whose token `rejected` was refused. -/
  | ensureFresh (rejected : Option AccessToken)
  /-- Renews whatever token is stored. -/
  | renewNow

/-- The work of a task that waits. -/
inductive Work (φ : Type) where
  | exchange (ex : Exchange φ)
  | renewal (r : Renewal φ)

/-- Where a task stands. -/
inductive Task (φ : Type) where
  | running (work : Work φ)
  /-- A request that has its answer. -/
  | replied (reply : Reply)
  /-- A renewal that has its answer. -/
  | renewed (result : Renewed)
  | dropped

/-- A step of a request as a step of its task. -/
def sendStep : Client ν × Poll (Exchange φ) Reply → Client ν × Task φ
  | (c, .pending ex) => (c, .running (.exchange ex))
  | (c, .ready reply) => (c, .replied reply)

/-- A step of a renewal as a step of its task. -/
def renewStep : Client ν × Poll (Renewal φ) Renewed → Client ν × Task φ
  | (c, .pending r) => (c, .running (.renewal r))
  | (c, .ready t) => (c, .renewed t)

/-- The first step of a task making `call`. -/
def Call.start (tr : Transport ν φ) : Call → Client ν → Client ν × Task φ
  | .send request renews, c => sendStep (Client.start tr request renews c)
  | .ensureFresh rejected, c => renewStep (Client.ensureFresh tr rejected c)
  | .renewNow, c =>
    match c.store.accessToken with
    | .error e => (c, .renewed (.error e))
    | .ok current => renewStep (Client.ensureFresh tr current c)

namespace Work

/-- Polls the work of a task. -/
def poll (tr : Transport ν φ) : Work φ → Client ν → Client ν × Task φ
  | .exchange ex, c => sendStep (ex.poll tr c)
  | .renewal r, c => renewStep (r.poll tr c)

/-- Leaves the work of a task where it waits. -/
def drop : Work φ → Client ν → Client ν
  | .exchange ex, c => ex.drop c
  | .renewal r, c => r.drop c

end Work

/-- Tasks sharing a client whose transport keeps a ledger. -/
structure Pool (ν φ : Type) where
  client : Client (ν × Ledger)
  tasks : List (Task (Nat × φ))

/-- A step of a run: a task starts, or a task is polled, or a task is dropped. -/
inductive Action where
  | spawn (call : Call)
  | poll (task : Nat)
  | drop (task : Nat)

namespace Pool

/-- A new client over a store, endpoints and network state, before any task. -/
def init (store : Store) (endpoints : Endpoints) (net : ν) : Pool ν φ :=
  { client := { store, endpoints, net := (net, {}) }, tasks := [] }

/-- Starts a task making `call`: its first step. -/
def spawn (tr : Transport ν φ) (call : Call) (p : Pool ν φ) : Pool ν φ :=
  let (c, t) := call.start (tr.logged p.tasks.length) p.client
  { client := c, tasks := p.tasks ++ [t] }

/-- Polls task `i`, if it runs. -/
def poll (tr : Transport ν φ) (i : Nat) (p : Pool ν φ) : Pool ν φ :=
  match p.tasks[i]? with
  | some (.running w) =>
    let (c, t) := w.poll (tr.logged i) p.client
    { client := c, tasks := p.tasks.set i t }
  | _ => p

/-- Drops task `i` where it waits, if it runs. -/
def drop (i : Nat) (p : Pool ν φ) : Pool ν φ :=
  match p.tasks[i]? with
  | some (.running w) => { client := w.drop p.client, tasks := p.tasks.set i .dropped }
  | _ => p

/-- One step of a run. -/
def step (tr : Transport ν φ) : Action → Pool ν φ → Pool ν φ
  | .spawn call => spawn tr call
  | .poll i => poll tr i
  | .drop i => drop i

/-- The steps `acts` taken one after the other. -/
def run (tr : Transport ν φ) (acts : List Action) (p : Pool ν φ) : Pool ν φ :=
  acts.foldl (fun p a => p.step tr a) p

/-- The pools that some run of a new client reaches, over the transport `tr`. -/
inductive Reachable (tr : Transport ν φ) : Pool ν φ → Prop where
  | init (store : Store) (endpoints : Endpoints) (net : ν) : Reachable tr (init store endpoints net)
  | step {p : Pool ν φ} (a : Action) : Reachable tr p → Reachable tr (step tr a p)

end Pool

/-! ## What the coordinator sees of a task -/

/-- A task outside any wave, leading the running wave, or following it with a ticket. -/
inductive Phase where
  | idle
  | leads
  | follows (ticket : Nat)
  deriving DecidableEq, Repr

/-- The phase of a renewal under way. -/
def Renewal.phase : Renewal φ → Phase
  | .following ticket => .follows ticket
  | .leading _ => .leads

/-- The renewal a work waits in, if any. -/
def Work.renewal? : Work φ → Option (Renewal φ)
  | .exchange ex =>
    match ex.stage with
    | .renewing r => some r
    | _ => none
  | .renewal r => some r

/-- The phase of a task. -/
def Task.phase : Task φ → Phase
  | .running w => (w.renewal?.map Renewal.phase).getD .idle
  | _ => .idle

/-- The phase of task `i` of a pool; a task that does not exist is idle. -/
def Pool.phase (p : Pool ν φ) (i : Nat) : Phase :=
  (p.tasks[i]?.map Task.phase).getD .idle

end BearerSession.Client
