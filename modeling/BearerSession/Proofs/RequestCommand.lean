import BearerSession.Proofs.SequentialSend
import BearerSession.Proofs.CommandGates

/-!
# The `request` command

`authwave request METHOD PATH [--data JSON] [--no-refresh] [--compact]` reads its body, builds
the client of the base URL over the session file, sends one request through it and prints what
came back. Over an agent every call is answered by the time it is made, and the command's client
starts with no wave running, so the paths of `Sends` become those of `Requested`: what is sent,
on which network, what answers and what the session file becomes.

* A body that is not JSON, or a base URL that does not read, stops the command before anything
  is sent (`StopsWith`).
* Otherwise the request has no headers of its own and is a first attempt; with `--no-refresh`
  it goes to the agent once, as it was built, and the file is not touched. The agent sends it on
  the network only when its endpoint reads as a URL with a host: a target such as `http://`
  fails with the agent's builder error and is never sent (`unformable_target_never_sent`).
* The command exits 0 exactly when the answer is a response, which is then a success; it prints
  `replyOutput`: a response's body, a rejection's JSON body, and nothing for any other failure,
  a failed renewal after a 401 included.
* The file changes only along a renewal: it holds the renewed pair when that was saved, and is
  otherwise cleared as `Settled` says, a clear that can itself fail.

The main statement is `request_command`.
-/

namespace BearerSession

open Client

/-! ## Sending over an agent -/

namespace Http

variable {q : Request} {c c' : Client Link} {r : Client.Reply}

theorem Link.transport_send {l : Link} :
    Link.transport.send q l = (l, .ready (l.agent.send l.network q)) := rfl

theorem Link.sendOn_eq :
    Link.transport.sendOn q c = (c, .ready (c.net.agent.send c.net.network q)) := rfl

/-- Over an agent a request is dispatched at once, and answered by the agent's reply. -/
theorem Link.dispatched_iff :
    Dispatched Link.transport q c c' r ↔ c' = c ∧ r = c.net.agent.send c.net.network q := by
  unfold Dispatched
  rw [Link.sendOn_eq, Polled.ready_iff, Prod.mk.injEq]

/-- A request with no headers of its own passes the header checks: it goes to the network at
its URL, when its endpoint reads as one with a host, and otherwise fails unsent. -/
theorem Agent.send_of_headers_nil {a : Agent} {net : Network} (h : q.headers = []) :
    a.send net q = match a.url? q with
      | some url => net url q
      | none => .error builderFailure := by
  unfold Agent.send
  rw [h, headerMap, List.foldlM_nil]
  -- the header map of no headers is there at once; each way of reading the URL is then the same
  cases a.url? q <;> rfl

/-- A reply that went through `intoResult` and is a response is a success. -/
theorem Response.isSuccess_of_bind {x : Client.Reply} {r : Response}
    (h : x.bind Response.intoResult = .ok r) : r.isSuccess = true := by
  rcases x with f | r₀
  · cases h
  · by_cases hs : r₀.isSuccess
    · simp only [Except.bind, Response.intoResult, hs, if_true] at h
      cases h
      exact hs
    · simp [Except.bind, Response.intoResult, hs] at h

end Http

namespace Client

variable {c : Client Http.Link}

/-- A leader over an agent's link: the wave ends at once, the coordinator is released and the
store is left as `Settled` says; nothing else changes. -/
theorem lead_link (c : Client Http.Link) :
    ∃ o s', lead Http.Link.transport c =
        ({ c with store := s', coordinator := c.coordinator.release o },
          .ready (o.mapError RenewalFailure.toFailure)) ∧ Settled c.store o s' := by
  unfold lead
  split
  · -- no pair stored, or none readable: the wave fails, nothing is sent
    exact ⟨_, _, rfl, .cleared _⟩
  · exact ⟨_, _, rfl, .cleared _⟩
  · rename_i token _
    -- the renewal call is answered at once, and its reply concludes the wave
    rw [Http.Link.transport_send]
    dsimp only
    let reply := c.net.agent.send c.net.network (c.endpoints.refreshRequest token)
    have hfst := conclude_fst reply c
    refine ⟨(conclude reply c).2, ((conclude reply c).1.settle (conclude reply c).2).store, ?_,
      conclude_settled reply c⟩
    rw [finishWave, hfst]
    rfl

/-- A caller whose refused token is the one stored leads a new wave when none runs. -/
theorem join_of_stored {ν : Type} {c : Client ν} {token : Option AccessToken}
    (hidle : c.coordinator.refreshing = false) (htoken : c.store.accessToken = .ok token) :
    c.join token =
      ({ c with coordinator := { c.coordinator with refreshing := true } }, .ok .leader) := by
  unfold join
  simp only [hidle, Bool.false_eq_true, if_false, htoken]
  cases token with
  | none => rfl
  | some t => simp

/-- Over an agent's link, a caller whose refused token is the one stored, with no wave running,
leads a wave that ends at once. -/
theorem ensureFresh_link {token : Option AccessToken} (hidle : c.coordinator.refreshing = false)
    (htoken : c.store.accessToken = .ok token) :
    ∃ o s', ensureFresh Http.Link.transport token c =
        ({ c with store := s', coordinator := { c.coordinator with refreshing := true }.release o },
          .ready (o.mapError RenewalFailure.toFailure)) ∧ Settled c.store o s' := by
  obtain ⟨o, s', hlead, hset⟩ :=
    lead_link { c with coordinator := { c.coordinator with refreshing := true } }
  refine ⟨o, s', ?_, hset⟩
  rw [ensureFresh, join_of_stored hidle htoken]
  exact hlead

/-- Over an agent's link, with no wave running, a request is answered by the time it is sent:
each attempt and the renewal between them end at once. -/
theorem start_link_ready (hidle : c.coordinator.refreshing = false) (q : Http.Request)
    (renews : Bool) :
    ∃ y : Client Http.Link × Reply, start Http.Link.transport q renews c = (y.1, .ready y.2) := by
  unfold start
  dsimp only
  rcases htok : (if renews = true then c.store.accessToken else Except.ok none) with e | token
  · exact ⟨(_, _), rfl⟩
  · -- the first attempt is answered at once
    show ∃ y : Client Http.Link × Reply, answered Http.Link.transport ⟨q, renews, token⟩
      (c.net.agent.send c.net.network (q.bearing token)) c = (y.1, .ready y.2)
    unfold answered
    split
    · exact ⟨(_, _), rfl⟩
    · split
      · -- a 401 with renewal on: the stored token was sent, and the renewal ends at once
        rename_i hren
        have hrenews : renews = true := by
          simp only [Sending.renewable, Bool.and_eq_true] at hren
          exact hren.1.1
        subst hrenews
        rw [if_pos rfl] at htok
        obtain ⟨o, s', hfresh, -⟩ := ensureFresh_link hidle htok
        rw [hfresh]
        cases o with
        | error e => exact ⟨(_, _), rfl⟩
        | ok fresh => exact ⟨(_, _), rfl⟩
      · exact ⟨(_, _), rfl⟩

/-! ## The paths of a request over an agent -/

/-- What sending `q` through a client over the agent `a` on the network `net` does, from the
store `s` with renewal on or off, when no other caller is under way: its answer, and the store
it leaves. -/
inductive Requested (a : Http.Agent) (net : Http.Network) (q : Http.Request) (s : Store) :
    Bool → Reply → Store → Prop
  /-- Renewal off: the store is not read; the request goes to the agent once, as it is, and the
  reply is the answer. -/
  | plain : Requested a net q s false ((a.send net q).bind Http.Response.intoResult) s
  /-- Renewal on and a store that cannot be read: its failure; nothing is sent. -/
  | unread {e : Failure} : s.accessToken = .error e → Requested a net q s true (.error e) s
  /-- Renewal on: the request goes with the stored token as its bearer, if any, and a reply that
  is no 401 to a first attempt is the answer. -/
  | answered {token : Option AccessToken} : s.accessToken = .ok token →
      (∀ resp, a.send net (q.bearing token) = .ok resp → resp.status = 401 →
        q.attempt = .retried) →
      Requested a net q s true ((a.send net (q.bearing token)).bind Http.Response.intoResult) s
  /-- A 401 to a first attempt starts a renewal; a failed one is the answer, and the store is
  cleared. -/
  | renewalFailed {token : Option AccessToken} {resp : Http.Response} {e : RenewalFailure}
      {s' : Store} : s.accessToken = .ok token → a.send net (q.bearing token) = .ok resp →
      resp.status = 401 → q.attempt = .fresh → Settled s (.error e) s' →
      Requested a net q s true (.error e.toFailure) s'
  /-- A renewal that saves the pair `pair` sends the request once more, as the replay with its
  access token; the reply to the replay is the answer. -/
  | replayed {token : Option AccessToken} {resp : Http.Response} {pair : Pair} :
      s.accessToken = .ok token → a.send net (q.bearing token) = .ok resp →
      resp.status = 401 → q.attempt = .fresh → (s.set pair).2 = .ok () →
      Requested a net q s true
        ((a.send net (q.retried.withBearer pair.access)).bind Http.Response.intoResult)
        (s.set pair).1

/-- Over an agent's link, with no wave running, the paths of `Sends` are those of `Requested`:
each attempt goes to the agent, and a renewal ends at once. -/
theorem Sends.requested {c' : Client Http.Link} {q : Http.Request} {renews : Bool} {res : Reply}
    (hidle : c.coordinator.refreshing = false) (h : Sends Http.Link.transport q renews c c' res) :
    Requested c.net.agent c.net.network q c.store renews res c'.store := by
  cases h with
  | plain hd =>
    obtain ⟨rfl, rfl⟩ := Http.Link.dispatched_iff.1 hd
    exact .plain
  | unread he => exact .unread he
  | answered htoken hd hnot =>
    obtain ⟨rfl, rfl⟩ := Http.Link.dispatched_iff.1 hd
    exact .answered htoken hnot
  | renewalFailed htoken hd h401 hfresh hrenew =>
    obtain ⟨rfl, hr⟩ := Http.Link.dispatched_iff.1 hd
    obtain ⟨o, s', hens, hset⟩ := ensureFresh_link hidle htoken
    rw [hens, Polled.ready_iff, Prod.mk.injEq] at hrenew
    obtain ⟨rfl, hres⟩ := hrenew
    -- the renewal failed, so its outcome is the failure answered
    cases o with
    | ok fresh => cases hres
    | error e =>
      cases hres
      exact .renewalFailed htoken hr.symm h401 hfresh hset
  | replayed htoken hd h401 hfresh hrenew hd₂ =>
    obtain ⟨rfl, hr⟩ := Http.Link.dispatched_iff.1 hd
    obtain ⟨o, s', hens, hset⟩ := ensureFresh_link hidle htoken
    rw [hens, Polled.ready_iff, Prod.mk.injEq] at hrenew
    obtain ⟨rfl, hres⟩ := hrenew
    -- the renewal saved a pair, whose access token the replay carries
    cases hset with
    | renewed pair hsave =>
      cases hres
      obtain ⟨rfl, rfl⟩ := Http.Link.dispatched_iff.1 hd₂
      exact .replayed htoken hr.symm h401 hfresh hsave
    | cleared e => cases hres
    | unsaved pair e _ => cases hres

section Requested

variable {a : Http.Agent} {net : Http.Network} {q : Http.Request} {renews : Bool} {res : Reply}

/-- A request sent through a client over a file leaves a store of the same file and instant. -/
theorem Requested.file_store {f : FileStore} {t : Disk.Tree} {n : Clock.Instant} {s' : Store}
    (h : Requested a net q (.file f t n) renews res s') : ∃ t', s' = .file f t' n := by
  cases h with
  | plain => exact ⟨t, rfl⟩
  | unread _ => exact ⟨t, rfl⟩
  | answered _ _ => exact ⟨t, rfl⟩
  | renewalFailed _ _ _ _ hset =>
    cases hset with
    | cleared => exact ⟨_, rfl⟩
    | unsaved pair _ _ => exact ⟨_, rfl⟩
  | replayed _ _ _ _ _ => exact ⟨_, rfl⟩

/-- Whatever path a request takes, an answer that is a response is a success. -/
theorem Requested.ok_isSuccess {s s' : Store} (h : Requested a net q s renews res s')
    {r : Http.Response} (hr : res = .ok r) : r.isSuccess = true := by
  cases h with
  | plain => exact Http.Response.isSuccess_of_bind hr
  | unread _ => cases hr
  | answered _ _ => exact Http.Response.isSuccess_of_bind hr
  | renewalFailed _ _ _ _ _ => cases hr
  | replayed _ _ _ _ _ => exact Http.Response.isSuccess_of_bind hr

end Requested

end Client

namespace Console

open CommandLine Client

/-! ## The request of the command line -/

/-- The request `request` sends for its arguments, or the fault of a body that is not JSON. -/
def requestOf (method : Http.Method) (path : String) : Option String → Except Fault Http.Request
  | none => .ok (Http.Request.new method path)
  | some text =>
    match Json.Value.parseText text with
    | .ok body => .ok ((Http.Request.new method path).withBody body)
    | .error e => .error ⟨"--data is not valid JSON", [e.message]⟩

/-- A request of the command line has no headers and is a first attempt. -/
theorem requestOf_shape {method : Http.Method} {path : String} {data : Option String}
    {q : Http.Request} (h : requestOf method path data = .ok q) :
    q.headers = [] ∧ q.attempt = .fresh := by
  unfold requestOf at h
  split at h
  · cases h
    exact ⟨rfl, rfl⟩
  · split at h
    · cases h
      exact ⟨rfl, rfl⟩
    · cases h

/-- The `User-Agent` of the command line is a valid header value. -/
theorem userAgent_valid : Http.validHeaderValue userAgent = true := by
  decide +kernel

namespace Context

/-- The client the command line builds for the base URL `base` over the tree `tree`: the
session file as its store, and the agent of the base URL on the machine's network. -/
def clientOn (ctx : Context) (base : BaseUrl) (tree : Disk.Tree) : Client Http.Link :=
  { store := .file ctx.file tree ctx.machine.now, net := ⟨⟨base, userAgent⟩, ctx.machine.network⟩ }

variable (ctx : Context) (e : Effects)

/-- With a base URL that reads, the client is built over the session file on the tree, and
nothing changes. -/
theorem client_run_of_base {raw : String} {base : BaseUrl} (hraw : ctx.baseUrl = some raw)
    (hbase : BaseUrl.parse raw = .ok base) :
    ctx.client.run.run e = (.ok (ctx.clientOn base e.tree), e) := by
  have hagent : Http.Agent.build base userAgent = .ok ⟨base, userAgent⟩ := by
    rw [Http.Agent.build, if_pos userAgent_valid]
  simp [Context.client, hraw, hbase, hagent]
  rfl

/-- With a base URL that does not read, no client is built, and nothing changes. -/
theorem client_run_of_invalid {raw : String} {f : Failure} (hraw : ctx.baseUrl = some raw)
    (hbase : BaseUrl.parse raw = .error f) :
    ctx.client.run.run e = (.error (Fault.within "Invalid base URL" f), e) := by
  simp [Context.client, hraw, hbase]
  rfl

end Context

/-- The client over the session file starts with no wave running, so its request is answered
as `Requested` says. -/
theorem exchange_requested (ctx : Context) (base : BaseUrl) (tree : Disk.Tree) (q : Http.Request)
    (renews : Bool) :
    Requested ⟨base, userAgent⟩ ctx.machine.network q (.file ctx.file tree ctx.machine.now) renews
      (exchange (ctx.clientOn base tree) q renews).2
      (exchange (ctx.clientOn base tree) q renews).1.store := by
  have hidle : (ctx.clientOn base tree).coordinator.refreshing = false := rfl
  obtain ⟨y, hy⟩ := start_link_ready hidle q renews
  -- the exchange is ready before the first poll, so the poll limit is never reached
  have hex : exchange (ctx.clientOn base tree) q renews = y := by
    show completeExchange Http.Link.transport pollLimit
      (start Http.Link.transport q renews (ctx.clientOn base tree)) = y
    rw [hy]
    rfl
  have hsends : Sends Http.Link.transport q renews (ctx.clientOn base tree) y.1 y.2 :=
    Polled.start_iff_sends.1 (hy ▸ Polled.ready_iff.2 rfl)
  rw [hex]
  exact hsends.requested hidle

/-! ## What the command prints -/

/-- What printing a response puts on standard output: its body as JSON, pretty unless `compact`,
when the body reads as JSON, and otherwise its text when that is not empty; each on a line of
its own. -/
def bodyOutput (r : Http.Response) (compact : Bool) : String :=
  match r.json? with
  | some v => bodyText v compact ++ "\n"
  | none => if r.text.isEmpty then "" else r.text ++ "\n"

/-- What a rejection puts on standard output: the JSON body it carries, if any. -/
def dataOutput (data : Option Json.Value) (compact : Bool) : String :=
  match data with
  | some v => bodyText v compact ++ "\n"
  | none => ""

/-- What a reply puts on standard output: a response its body, a rejection the JSON body it
carries, and any other failure nothing. -/
def replyOutput (compact : Bool) : Reply → String
  | .ok r => bodyOutput r compact
  | .error (.requestFailed rej) => dataOutput rej.data compact
  | .error _ => ""

theorem replyOutput_of_failed {compact : Bool} {f : Failure}
    (hf : ∀ rej, f ≠ .requestFailed rej) : replyOutput compact (.error f) = "" := by
  unfold replyOutput
  split
  · next heq => cases heq
  · next rej heq =>
    cases heq
    exact absurd rfl (hf rej)
  · rfl

section Answer

variable (failed : String) (compact : Bool) (e : Effects)

theorem say_run (line : String) :
    (say line).run.run e = (.ok (), { e with out := e.out ++ line ++ "\n" }) := rfl

theorem note_run (line : String) :
    (note line).run.run e = (.ok (), { e with err := e.err ++ line ++ "\n" }) := rfl

/-- A response is printed: its status line on standard error, its body on standard output. -/
theorem answer_ok (r : Http.Response) :
    (answer failed compact (.ok r)).run.run e =
      (.ok (), { e with out := e.out ++ bodyOutput r compact
                        err := e.err ++ statusLine r.status r.reason ++ "\n" }) := by
  show (printResponse r compact).run.run e = _
  rw [printResponse, Act.run_bind_ok (note_run _ _), bodyOutput]
  rcases r.json? with _ | v
  · by_cases hempty : r.text.isEmpty
    · simp [hempty]
      rfl
    · simp [hempty, say_run, String.append_assoc]
  · simp [say_run, String.append_assoc]

/-- A rejection prints its status line on standard error and the JSON body it carries, if any,
on standard output, and fails with `failed`. -/
theorem answer_rejected (rej : Rejection) :
    (answer failed compact (.error (.requestFailed rej))).run.run e =
      (.error ⟨failed, [rej.text]⟩,
        { e with out := e.out ++ dataOutput rej.data compact
                 err := e.err ++ statusLine rej.status rej.reason ++ "\n" }) := by
  show (note _ >>= fun _ => _).run.run e = _
  rw [Act.run_bind_ok (note_run _ _)]
  rcases rej.data with _ | v
  · simp [dataOutput]
    rfl
  · simp [dataOutput, say_run, String.append_assoc]
    rfl

/-- Any other failure prints nothing and fails with `failed`, the failure as its cause. -/
theorem answer_failed {f : Failure} (hf : ∀ rej, f ≠ .requestFailed rej) :
    (answer failed compact (.error f)).run.run e = (.error (Fault.within failed f), e) := by
  unfold answer
  split
  · next heq => cases heq
  · next rej heq =>
    cases heq
    exact absurd rfl (hf rej)
  · next heq =>
    cases heq
    rfl

/-- Answering a reply prints `replyOutput` on standard output and keeps the tree; it succeeds
exactly when the reply is a response. -/
theorem answer_run (res : Reply) :
    ∃ r err, (answer failed compact res).run.run e =
        (r, { e with out := e.out ++ replyOutput compact res, err := err }) ∧
      (r = .ok () ↔ ∃ resp, res = .ok resp) := by
  rcases res with f | resp
  · by_cases hrej : ∃ rej, f = .requestFailed rej
    · obtain ⟨rej, rfl⟩ := hrej
      refine ⟨_, _, answer_rejected failed compact e rej, ?_⟩
      simp
    · have hf : ∀ rej, f ≠ .requestFailed rej := fun rej heq => hrej ⟨rej, heq⟩
      refine ⟨.error (Fault.within failed f), e.err, ?_, ?_⟩
      · rw [answer_failed failed compact e hf, replyOutput_of_failed hf, String.append_empty]
      · simp
  · refine ⟨_, _, answer_ok failed compact e resp, ?_⟩
    simp

end Answer

/-! ## A run of `request` -/

section Request

variable {ctx : Context} {e : Effects} {method : Http.Method} {path : String}
  {data : Option String} {noRefresh compact : Bool}

/-- Keeping a client over a file keeps the tree it left. -/
theorem keep_run_file {c : Client Http.Link} {f : FileStore} {t : Disk.Tree} {n : Clock.Instant}
    (h : c.store = .file f t n) : (keep c).run.run e = (.ok (), { e with tree := t }) := by
  unfold keep
  rw [h]
  rfl

/-- A body that is not JSON stops `request` before anything else. -/
theorem request_run_of_fault {f : Fault} (hq : requestOf method path data = .error f) :
    (request ctx method path data noRefresh compact).run.run e = (.error f, e) := by
  unfold requestOf at hq
  split at hq
  · cases hq
  · next text =>
    split at hq
    · cases hq
    · next err hparse =>
      cases hq
      rw [request]
      simp only [hparse]
      exact Act.run_bind_error rfl

/-- A body that reads, or none, gives `request` the request `requestOf` builds. -/
theorem request_run_of_request {q : Http.Request} (hq : requestOf method path data = .ok q) :
    (request ctx method path data noRefresh compact).run.run e =
      (do
        let client ← ctx.client
        let (client, reply) := exchange client q !noRefresh
        keep client
        answer (method.name ++ " " ++ path ++ " failed") compact reply).run.run e := by
  unfold requestOf at hq
  split at hq
  · cases hq
    rw [request]
    exact Act.run_bind_ok rfl
  · next text =>
    split at hq
    · next body hparse =>
      cases hq
      rw [request]
      simp only [hparse]
      exact Act.run_bind_ok rfl
    · cases hq

/-- A base URL that does not read stops `request` before anything is sent. -/
theorem request_run_of_invalid {q : Http.Request} {raw : String} {f : Failure}
    (hq : requestOf method path data = .ok q) (hraw : ctx.baseUrl = some raw)
    (hbase : BaseUrl.parse raw = .error f) :
    (request ctx method path data noRefresh compact).run.run e =
      (.error (Fault.within "Invalid base URL" f), e) := by
  rw [request_run_of_request hq]
  exact Act.run_bind_error (ctx.client_run_of_invalid e hraw hbase)

/-- With a base URL that reads, `request` sends its request through the client over the session
file, keeps the tree the client left, and answers the reply. -/
theorem request_run {q : Http.Request} {raw : String} {base : BaseUrl} {t : Disk.Tree}
    (hq : requestOf method path data = .ok q) (hraw : ctx.baseUrl = some raw)
    (hbase : BaseUrl.parse raw = .ok base)
    (hstore : (exchange (ctx.clientOn base e.tree) q !noRefresh).1.store =
      .file ctx.file t ctx.machine.now) :
    (request ctx method path data noRefresh compact).run.run e =
      (answer (method.name ++ " " ++ path ++ " failed") compact
        (exchange (ctx.clientOn base e.tree) q !noRefresh).2).run.run { e with tree := t } := by
  rw [request_run_of_request hq, Act.run_bind_ok (ctx.client_run_of_base e hraw hbase)]
  exact Act.run_bind_ok (keep_run_file hstore)

end Request

/-- **The `request` command.** Take a command line read as `request METHOD PATH` with its body,
`--no-refresh` and `--compact` flags.

* A body that is not JSON stops the command before anything is sent, and so does a base URL
  that does not read.
* Otherwise the request has no headers and is a first attempt, and there is an answer `res`
  that `Requested` relates to the session file before the run and after it: the file changes
  only along a renewal. The run exits 0 exactly when `res` is a response, which is then a
  success, and prints `replyOutput` of `res`.
* With `--no-refresh` the file is not touched, and the answer is the agent's: the network is
  asked once, with the request as it was built, when its endpoint reads as a URL with a host,
  and otherwise nothing is sent and the answer is the builder error. -/
theorem request_command {m : Machine} {words : List String} {inv : Invocation}
    {method : Http.Method} {path : String} {data : Option String} {noRefresh compact : Bool}
    (h : invocation m words = some inv)
    (hcmd : inv.command = .request method path data noRefresh compact) :
    (∀ f, requestOf method path data = .error f → StopsWith m words f) ∧
    (∀ q raw f, requestOf method path data = .ok q → inv.baseUrl = some raw →
      BaseUrl.parse raw = .error f → StopsWith m words (Fault.within "Invalid base URL" f)) ∧
    (∀ q raw base, requestOf method path data = .ok q → inv.baseUrl = some raw →
      BaseUrl.parse raw = .ok base →
      q.headers = [] ∧ q.attempt = .fresh ∧
      ∃ res, Requested ⟨base, userAgent⟩ m.network q (.file (inv.context m).file m.tree m.now)
          (!noRefresh) res (.file (inv.context m).file (run m words).tree m.now) ∧
        ((run m words).code = 0 ↔ ∃ r, res = .ok r) ∧
        (∀ r, res = .ok r → r.isSuccess = true) ∧
        (run m words).out = replyOutput compact res ∧
        (noRefresh = true → (run m words).tree = m.tree ∧
          res = (match (⟨base, userAgent⟩ : Http.Agent).url? q with
            | some url => m.network url q
            | none => .error Http.builderFailure).bind Http.Response.intoResult)) := by
  refine ⟨?_, ?_, ?_⟩
  · intro f hq
    apply stopsWith_of_perform h
    intro net
    rw [hcmd]
    exact request_run_of_fault hq
  · intro q raw f hq hraw hbase
    apply stopsWith_of_perform h
    intro net
    rw [hcmd]
    exact request_run_of_invalid hq hraw hbase
  · intro q raw base hq hraw hbase
    obtain ⟨hheaders, hfresh⟩ := requestOf_shape hq
    refine ⟨hheaders, hfresh, ?_⟩
    -- the client leaves the file at some tree `t`, which the run keeps before answering
    have hreq := exchange_requested (inv.context m) base m.tree q (!noRefresh)
    obtain ⟨t, ht⟩ := hreq.file_store
    obtain ⟨r, err, hans, hok⟩ := answer_run (method.name ++ " " ++ path ++ " failed") compact
      { tree := t } (exchange ((inv.context m).clientOn base m.tree) q !noRefresh).2
    have hout := run_of_invocation h
    rw [hcmd, perform, request_run (e := { tree := m.tree }) hq hraw hbase ht, hans] at hout
    rw [ht] at hreq
    generalize (exchange ((inv.context m).clientOn base m.tree) q !noRefresh).2 = res
      at hreq hok hout
    -- the run keeps the command's tree and standard output, and exits 0 when it succeeded
    have hfields : (run m words).tree = t ∧ (run m words).out = replyOutput compact res ∧
        ((run m words).code = 0 ↔ r = .ok ()) := by
      rw [hout]
      rcases r with _ | _ <;> simp
    obtain ⟨htree, hstdout, hcode⟩ := hfields
    refine ⟨res, htree ▸ hreq, hcode.trans hok, fun r hr => hreq.ok_isSuccess hr, hstdout, ?_⟩
    intro hnr
    subst hnr
    -- with renewal off the only path is the plain one, which leaves the file as it was
    cases hreq
    refine ⟨htree, ?_⟩
    rw [Http.Agent.send_of_headers_nil hheaders]
    rfl

/-- `request GET /x --no-refresh` against a local backend is read as that request. -/
theorem request_command_plainGet :
    let m : Machine := ⟨[], {}, fun _ _ => .ok { status := 200 }, ⟨2024, 1, 1, 0, 0, 0, 0⟩,
      some "/home/user"⟩
    let words := ["--base-url", "http://127.0.0.1:8080", "request", "GET", "/x", "--no-refresh"]
    let inv : Invocation := ⟨some "http://127.0.0.1:8080", none, .request .get "/x" none true false⟩
    invocation m words = some inv ∧ inv.command = .request .get "/x" none true false ∧
    (∀ f, requestOf .get "/x" none = .error f → StopsWith m words f) ∧
    (∀ q raw f, requestOf .get "/x" none = .ok q → inv.baseUrl = some raw →
      BaseUrl.parse raw = .error f → StopsWith m words (Fault.within "Invalid base URL" f)) ∧
    (∀ q raw base, requestOf .get "/x" none = .ok q → inv.baseUrl = some raw →
      BaseUrl.parse raw = .ok base →
      q.headers = [] ∧ q.attempt = .fresh ∧
      ∃ res, Requested ⟨base, userAgent⟩ m.network q (.file (inv.context m).file m.tree m.now)
          (!true) res (.file (inv.context m).file (run m words).tree m.now) ∧
        ((run m words).code = 0 ↔ ∃ r, res = .ok r) ∧
        (∀ r, res = .ok r → r.isSuccess = true) ∧
        (run m words).out = replyOutput false res ∧
        (true = true → (run m words).tree = m.tree ∧
          res = (match (⟨base, userAgent⟩ : Http.Agent).url? q with
            | some url => m.network url q
            | none => .error Http.builderFailure).bind Http.Response.intoResult)) := by
  intro m words inv
  have h : invocation m words = some inv := by decide +kernel
  exact ⟨h, rfl, request_command h rfl⟩

/-- With `--no-refresh`, a target that does not read as a URL with a host is never sent: on a
backend that answers every request with 200 the command still fails, with the agent's builder
error, and prints nothing on standard output. -/
theorem unformable_target_never_sent :
    let words := ["--base-url", "http://127.0.0.1:8080", "request", "GET", "http://", "--no-refresh"]
    let outcome := run ⟨[], {}, fun _ _ => .ok { status := 200 }, ⟨2024, 1, 1, 0, 0, 0, 0⟩,
      some "/home/user"⟩ words
    outcome.code = 1 ∧ outcome.out = "" := by
  intro words outcome
  decide +kernel

end Console

end BearerSession
