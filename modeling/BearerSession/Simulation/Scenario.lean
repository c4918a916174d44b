import BearerSession.Session
import BearerSession.Simulation.Backend
import BearerSession.Simulation.StoreStep

/-!
# Scenarios

A scenario runs one session, its client and a scripted backend through a list of steps. A step
is one task; a concurrent step is several tasks run together. Tasks are run by a deterministic
scheduler (`Simulation.schedule`): in each round every unfinished task is polled once, in
order, and a task is only ever suspended by a request in flight at the backend or by a
follower's wait for its wave. All else a task does, reading the store, joining a wave,
settling it, happens within one poll, so a later task in the same round sees it. A task still
unfinished after its `k`-th poll, when it was given `k` as its limit, is dropped, and dropping
a wave's leader abandons the wave.

Each step is reported with the answer of every task, the requests it sent, the stored pair
and the session state after it; a concurrent step also reports, after every round, whether a
wave ran and how many followers waited.
-/

namespace BearerSession.Simulation

open Client

/-- The world of a scenario: a session over the scripted backend. -/
abbrev World := Session Backend

/-- What a response is turned into. -/
inductive Reading where
  /-- The response itself. -/
  | response
  /-- The body as a JSON value. -/
  | value
  /-- The body as a profile. -/
  | profile

/-- A step a task carries out. -/
inductive Step where
  /-- Sends a request; `renews` says whether the stored token goes with it. -/
  | send (request : Http.Request) (renews : Bool) (reading : Reading)
  | login (credentials : Credentials)
  | logout
  | fetchProfile
  /-- Renews the stored access token. -/
  | renewNow
  /-- Obtains a fresh token for a caller whose token was refused. -/
  | ensureFresh (rejected : Option AccessToken)
  | session
  | debug
  | endpoints
  | store (step : StoreStep)
  /-- Opens the backend's gate. -/
  | openGate
  /-- The requests logged for a target. -/
  | callsTo (target : String)
  /-- Waits for the given number of rounds. -/
  | pause (rounds : Nat)
  /-- A step whose request could not be built: it answers why. -/
  | invalid (failure : Failure)

/-- What is done with the reply of a finished request. -/
inductive Finish where
  | reading (r : Reading)
  | login
  | probe

/-- The work of a suspended task. -/
inductive Job where
  | exchange (ex : Exchange Flight) (finish : Finish)
  | renewal (r : Renewal Flight)
  | pause (rounds : Nat)

/-- The backend's transport. -/
def transport : Transport Backend Flight := Backend.transport

/-- The answer to a finished request. -/
def finishWith (f : Finish) (reply : Reply) (w : World) : World × Answer :=
  match f with
  | .reading .response => (w, .ofExcept (reply.map (·.report)))
  | .reading .value => (w, .ofExcept (reply.bind (·.json)))
  | .reading .profile => (w, .ofExcept ((reply.bind (·.decode Profile.reader)).map (·.report)))
  | .login =>
    let (w, r) := w.loggedIn reply
    (w, .ofExcept (r.map fun _ => .null))
  | .probe =>
    let (w, p) := w.probed reply
    (w, .ok ((p.map (·.report)).getD .null))

/-- Carries a step of a request into the task. -/
def exchanged (f : Finish) : Client Backend × Poll (Exchange Flight) Reply → World →
    World × Poll Job Answer
  | (c, .pending ex), w => ({ w with client := c }, .pending (.exchange ex f))
  | (c, .ready reply), w =>
    let (w, a) := finishWith f reply { w with client := c }
    (w, .ready a)

/-- Carries a step of a renewal into the task. -/
def renewedStep : Client Backend × Poll (Renewal Flight) Renewed → World →
    World × Poll Job Answer
  | (c, .pending r), w => ({ w with client := c }, .pending (.renewal r))
  | (c, .ready t), w => ({ w with client := c }, .ready (.ofExcept (t.map (.string ·.value))))

/-- A pause with `rounds` polls still to wait. -/
def pausing (rounds : Nat) (w : World) : World × Poll Job Answer :=
  match rounds with
  | 0 => (w, .ready (.ok .null))
  | n + 1 => (w, .pending (.pause n))

/-- The report of the session state. -/
def sessionReport (w : World) : Json.Value :=
  Report.obj [("state", w.state.report), ("is_authenticated", .bool w.state.isAuthenticated),
    ("profile", (w.state.profile?.map Profile.report).getD .null)]

/-- Starts a step: its first poll. -/
def Step.start (step : Step) (w : World) : World × Poll Job Answer :=
  match step with
  | .send q renews reading =>
    exchanged (.reading reading) (Client.start transport q renews w.client) w
  | .login c => exchanged .login (Client.start transport (w.loginRequest c) false w.client) w
  | .logout => (w.logout, .ready (.ok .null))
  | .fetchProfile => exchanged .probe (Client.start transport w.profileRequest true w.client) w
  | .renewNow =>
    match w.client.store.accessToken with
    | .error e => (w, .ready (.failed e))
    | .ok current => renewedStep (Client.ensureFresh transport current w.client) w
  | .ensureFresh rejected => renewedStep (Client.ensureFresh transport rejected w.client) w
  | .session => (w, .ready (.ok (sessionReport w)))
  | .debug => (w, .ready (.ok (.string w.client.debug)))
  | .endpoints => (w, .ready (.ok w.client.endpoints.toJson))
  | .store s =>
    let (st, a) := s.run w.client.store
    ({ w with client := { w.client with store := st } }, .ready a)
  | .openGate =>
    ({ w with client := { w.client with net := { w.client.net with gateOpen := true } } },
      .ready (.ok .null))
  | .callsTo target =>
    (w, .ready (.ok (.array ((w.client.net.callsTo target).map (·.report)))))
  | .pause rounds => pausing rounds w
  | .invalid f => (w, .ready (.failed f))

namespace Job

/-- Polls a suspended task. -/
def poll (j : Job) (w : World) : World × Poll Job Answer :=
  match j with
  | .exchange ex f => exchanged f (ex.poll transport w.client) w
  | .renewal r => renewedStep (r.poll transport w.client) w
  | .pause rounds => pausing rounds w

/-- Drops a suspended task. -/
def drop (j : Job) (w : World) : World :=
  match j with
  | .exchange ex _ => { w with client := ex.drop w.client }
  | .renewal r => { w with client := r.drop w.client }
  | .pause _ => w

end Job

/-- Where a task stands. -/
inductive TaskState where
  | waiting (step : Step)
  | running (job : Job)
  | finished (answer : Answer)

/-- A task: where it stands, how often it was polled, and after how many polls it is dropped. -/
structure Task where
  state : TaskState
  dropAfter : Option Nat := none
  polls : Nat := 0

namespace Task

/-- Whether a task has finished. -/
def done (t : Task) : Bool :=
  match t.state with
  | .finished _ => true
  | _ => false

/-- Takes the outcome of one poll. -/
def advance (t : Task) : World × Poll Job Answer → World × Task
  | (w, .ready a) => (w, { t with state := .finished a, polls := t.polls + 1 })
  | (w, .pending job) =>
    let polls := t.polls + 1
    if t.dropAfter == some polls then (job.drop w, { t with state := .finished .dropped, polls })
    else (w, { t with state := .running job, polls })

/-- Polls a task once, unless it has finished. -/
def poll (t : Task) (w : World) : World × Task :=
  match t.state with
  | .finished _ => (w, t)
  | .waiting step => t.advance (step.start w)
  | .running job => t.advance (job.poll w)

/-- The answer of a task; one still running never finished. -/
def answer (t : Task) : Answer :=
  match t.state with
  | .finished a => a
  | _ => .stalled

end Task

/-- One round: every task polled once, in order. -/
def round (w : World) : List Task → World × List Task
  | [] => (w, [])
  | t :: rest =>
    let (w, t) := t.poll w
    let (w, rest) := round w rest
    (w, t :: rest)

/-- Whether a wave runs, and how many followers wait for it. -/
def waveReport (w : World) : Json.Value :=
  Report.obj [("refreshing", .bool w.client.coordinator.refreshing),
    ("waiters", .number (.nat w.client.coordinator.waiters.length))]

/-- Runs rounds until every task has finished, for at most `fuel` rounds, noting the wave
after each round. -/
def schedule (fuel : Nat) (w : World) (tasks : List Task) (trace : List Json.Value) :
    World × List Task × List Json.Value :=
  match fuel with
  | 0 => (w, tasks, trace)
  | fuel + 1 =>
    if tasks.all Task.done then (w, tasks, trace)
    else
      let (w, tasks) := round w tasks
      schedule fuel w tasks (trace ++ [waveReport w])

/-- The number of rounds after which an unfinished task counts as stalled. -/
def roundLimit : Nat := 10000

/-- An entry of a scenario: one step, or steps run together, each with its drop limit. -/
inductive Entry where
  | single (step : Step)
  | together (tasks : List (Step × Option Nat))

/-- The stored pair, or the failure to read it. -/
def storeReport (s : Store) : Json.Value :=
  match s.get with
  | .ok p => Report.pair p
  | .error f => f.report

/-- Runs an entry and reports it. -/
def Entry.run (e : Entry) (w : World) : World × Json.Value :=
  let before := w.client.net.log.length
  let tasks : List Task := match e with
    | .single s => [{ state := .waiting s }]
    | .together ts => ts.map fun (s, k) => { state := .waiting s, dropAfter := k }
  let (w, tasks, trace) := schedule roundLimit w tasks []
  let outcome := match e with
    | .single _ => [("result", (tasks.head?.map (·.answer.report)).getD .null)]
    | .together _ =>
      [("results", .array (tasks.map (·.answer.report))), ("trace", .array trace)]
  let common := [("calls", .array ((w.client.net.log.drop before).map (·.report))),
    ("store", storeReport w.client.store), ("session", w.state.report)]
  (w, Report.obj (outcome ++ common))

/-- Runs the entries of a scenario in order and reports each. -/
def runEntries (w : World) : List Entry → List Json.Value
  | [] => []
  | e :: rest =>
    let (w, v) := e.run w
    v :: runEntries w rest

/-- How the store of a scenario starts. -/
inductive StoreSetup where
  | memory (initial : Option Pair)
  | file (path : String) (raw : Option String) (initial : Option Pair)

/-- The setting of a scenario. -/
structure Setup where
  store : StoreSetup
  endpoints : Endpoints
  routes : List Route
  handling : Handling

/-- The world a scenario starts from. -/
def Setup.world (s : Setup) : World :=
  let store : Store := match s.store with
    | .memory initial => .memory initial
    | .file path raw initial =>
      let tree := match raw with
        | some text => (({} : Disk.Tree).writeWhole path text.toUTF8).toOption.getD {}
        | none => {}
      let store : Store := .file ⟨path⟩ tree clock
      match initial with
      | some p => (store.set p).1
      | none => store
  { client := { store, endpoints := s.endpoints,
                net := { routes := s.routes, handling := s.handling } } }

/-- Runs a scenario and reports every entry. -/
def run (s : Setup) (entries : List Entry) : Json.Value :=
  Report.obj [("steps", .array (runEntries s.world entries))]

end BearerSession.Simulation
