import BearerSession.Proofs.SequentialSend
import BearerSession.Session

/-!
# Login, logout and the profile probe

A session is driven by three operations (`Session.Op`), each run to its end before the next
(`Session.Performs`): a login sends its call with renewal off and completes on the reply, a
logout clears the store, and the probe sends its call with renewal on and completes on the
reply.

Login goes around the bearer and the renewal machinery: the one request it sends is the login
call, with no headers at all, whatever the store holds and whatever the backend answers, so in
particular it never renews on a 401. Its reply ends it as `LoginEnd` says: the session becomes
authenticated, without a profile, exactly when the reply is in 2xx, its body is a token pair and
that pair is stored; on any failure the store and the state are as they were, provided a failed
write leaves the store as it was. Logout always ends anonymous, and the probe never fails: it
gives a profile exactly when it leaves the session authenticated with it. The main statement is
`Session.Performs.operations`.
-/

namespace BearerSession

namespace Client

variable {ν φ : Type}

/-! ## A request sent with renewal off -/

/-- The answer to a first attempt without renewal is the reply as the client reads it. -/
theorem answered_of_not_renews {tr : Transport ν φ} {sd : Sending} (hsd : sd.renews = false)
    (reply : Reply) (c : Client ν) :
    answered tr sd reply c = (c, .ready (reply.bind Http.Response.intoResult)) :=
  answered_of_not_renewable tr sd (fun _ _ => by simp [Sending.renewable, hsd]) c

section Logged

variable {tr : Transport ν φ} {k : Nat}

/-- A first attempt without renewal, in flight at place `f.1` and polled to its end: its reply
is put down there and answers it, and nothing but the network changes. -/
theorem Polled.first_ends {x : Client (ν × Ledger) × Poll (Exchange (Nat × φ)) Reply}
    {y : Client (ν × Ledger) × Reply} (h : Polled (Exchange.poll (tr.logged k)) x y) :
    ∀ c sd f, sd.renews = false → x = (c, .pending ⟨sd, .first f⟩) →
      ∃ raw, y.2 = raw.bind Http.Response.intoResult ∧ y.1 = { c with net := y.1.net } ∧
        y.1.net.2 = c.net.2.reply f.1 raw := by
  induction h with
  | ready =>
    intro c sd f _ hx
    cases hx
  | @pending c₀ x₀ y hrest ih =>
    intro c sd f hsd hx
    obtain ⟨rfl, rfl⟩ : c = c₀ ∧ (⟨sd, .first f⟩ : Exchange (Nat × φ)) = x₀ := by
      simpa [eq_comm] using hx
    rcases hpoll : (tr.logged k).poll f c.net with ⟨net, g | raw⟩
    · have hg := logged_poll_pending tr k (g := g) (by rw [hpoll])
      rw [hpoll] at hg
      have hstep : Exchange.poll (tr.logged k) ⟨sd, .first f⟩ c =
          ({ c with net }, .pending ⟨sd, .first g⟩) := by
        simp [Exchange.poll, hpoll]
      rw [hstep] at hrest
      obtain ⟨raw, hres, hy, hnet⟩ := ih { c with net } sd g hsd hstep
      refine ⟨raw, hres, hy, ?_⟩
      rw [hnet, show ({ c with net } : Client (ν × Ledger)).net.2 = net.2 from rfl, hg.2, hg.1]
    · have hr := logged_poll_ready tr k (r := raw) (by rw [hpoll])
      rw [hpoll] at hr
      have hstep : Exchange.poll (tr.logged k) ⟨sd, .first f⟩ c =
          ({ c with net }, .ready (raw.bind Http.Response.intoResult)) := by
        simp [Exchange.poll, hpoll, answered_of_not_renews hsd]
      rw [hstep, Polled.ready_iff] at hrest
      subst hrest
      exact ⟨raw, rfl, rfl, hr⟩

/-- A request sent with renewal off and run to its end: the request goes out once, as it is,
and the one reply it gets answers it; nothing but the network changes. -/
theorem Polled.start_unrenewed {q : Http.Request} {c c' : Client (ν × Ledger)} {reply : Reply}
    (h : Polled (Exchange.poll (tr.logged k)) (Client.start (tr.logged k) q false c) (c', reply)) :
    ∃ raw, reply = raw.bind Http.Response.intoResult ∧ c' = { c with net := c'.net } ∧
      c'.net.2 = (c.net.2.send k q).reply c.net.2.sent.length raw := by
  rcases hsend : (tr.logged k).send q c.net with ⟨net, f | raw⟩
  · obtain ⟨hf, hnet⟩ := logged_send_pending tr k (f := f) (by rw [hsend])
    rw [hsend] at hnet
    have hstart : Client.start (tr.logged k) q false c =
        ({ c with net }, .pending ⟨⟨q, false, none⟩, .first f⟩) := by
      simp [Client.start, hsend]
    rw [hstart] at h
    obtain ⟨raw, hres, hy, hnet'⟩ := Polled.first_ends h _ _ f rfl rfl
    refine ⟨raw, hres, hy, ?_⟩
    rw [hnet', show ({ c with net } : Client (ν × Ledger)).net.2 = net.2 from rfl, hnet, hf]
  · have hnet := logged_send_ready tr k (r := raw) (by rw [hsend])
    rw [hsend] at hnet
    have hstart : Client.start (tr.logged k) q false c =
        ({ c with net }, .ready (raw.bind Http.Response.intoResult)) := by
      simp [Client.start, hsend, answered_of_not_renews]
    rw [hstart, Polled.ready_iff] at h
    cases h
    exact ⟨raw, rfl, rfl, hnet⟩

end Logged

end Client

namespace Session

open Client

variable {ν φ : Type}

/-- An operation of a session. -/
inductive Op where
  | login (credentials : Credentials)
  | logout
  | fetchProfile

/-- What an operation gives back: the outcome of a login, nothing, or the profile found. -/
inductive Result where
  | login (outcome : Except Failure Unit)
  | logout
  | profile (found : Option Profile)

/-- An operation run to its end over the transport `tr`, from the session `s` to `s'`. -/
inductive Performs (tr : Transport ν φ) : Session ν → Op → Session ν → Result → Prop
  | login {s : Session ν} {cr : Credentials} {c' : Client ν} {reply : Reply} :
      Polled (Exchange.poll tr) (Client.start tr (s.loginRequest cr) false s.client) (c', reply) →
      Performs tr s (.login cr) ({ s with client := c' }.loggedIn reply).1
        (.login ({ s with client := c' }.loggedIn reply).2)
  | logout {s : Session ν} : Performs tr s .logout s.logout .logout
  | fetchProfile {s : Session ν} {c' : Client ν} {reply : Reply} :
      Polled (Exchange.poll tr) (Client.start tr s.profileRequest true s.client) (c', reply) →
      Performs tr s .fetchProfile ({ s with client := c' }.probed reply).1
        (.profile ({ s with client := c' }.probed reply).2)

/-- How the reply `raw` to a login call ends the login, from the store `s` and the state `st`:
its outcome, the store and the state after it. -/
inductive LoginEnd (s : Store) (st : SessionState) :
    Reply → Except Failure Unit → Store → SessionState → Prop
  /-- No response arrived. -/
  | unanswered (f : Failure) : LoginEnd s st (.error f) (.error f) s st
  /-- A status outside 2xx: the request failed with it. -/
  | rejected (r : Http.Response) : r.isSuccess = false →
      LoginEnd s st (.ok r) (.error (.requestFailed ⟨r.status, r.reason, r.json?⟩)) s st
  /-- A body in 2xx that is not a token pair. -/
  | undecodable (r : Http.Response) (e : Json.DecodeError) : r.isSuccess = true →
      Json.Reader.runDocument (Pair.reader "TokenPairResponse") r.body = .error e →
      LoginEnd s st (.ok r) (.error (.transport (.decode e.message))) s st
  /-- A pair that could not be stored; the store is as the failed write left it. -/
  | unsaved (r : Http.Response) (pair : Pair) (e : Failure) : r.isSuccess = true →
      Json.Reader.runDocument (Pair.reader "TokenPairResponse") r.body = .ok pair →
      (s.set pair).2 = .error e → LoginEnd s st (.ok r) (.error e) (s.set pair).1 st
  /-- A pair that is stored: authenticated, without a profile yet. -/
  | loggedIn (r : Http.Response) (pair : Pair) : r.isSuccess = true →
      Json.Reader.runDocument (Pair.reader "TokenPairResponse") r.body = .ok pair →
      (s.set pair).2 = .ok () → LoginEnd s st (.ok r) (.ok ()) (s.set pair).1 (.authenticated none)

/-- Completing a login on the raw reply to its call ends it as `LoginEnd` says. -/
theorem loggedIn_loginEnd (raw : Reply) (s : Session ν) :
    LoginEnd s.client.store s.state raw (s.loggedIn (raw.bind Http.Response.intoResult)).2
      (s.loggedIn (raw.bind Http.Response.intoResult)).1.client.store
      (s.loggedIn (raw.bind Http.Response.intoResult)).1.state := by
  rcases raw with f | r
  · exact .unanswered f
  · by_cases hok : r.isSuccess = true
    · have hres : r.intoResult = .ok r := by simp [Http.Response.intoResult, hok]
      rcases hread : Json.Reader.runDocument (Pair.reader "TokenPairResponse") r.body with
        e | pair
      · have hdec : r.decode (Pair.reader "TokenPairResponse") = .error (.transport (.decode e.message)) :=
          decode_eq_error.2 ⟨e, hread, rfl⟩
        simp only [loggedIn, Except.bind, hres, hdec]
        exact .undecodable r e hok hread
      · have hdec : r.decode (Pair.reader "TokenPairResponse") = .ok pair := decode_eq_ok.2 hread
        rcases hset : s.client.store.set pair with ⟨store, saved⟩
        cases saved with
        | error e =>
          have hsaved : (s.client.store.set pair).2 = .error e := by rw [hset]
          have hstore : (s.client.store.set pair).1 = store := by rw [hset]
          simp only [loggedIn, Except.bind, hres, hdec, hset]
          exact hstore ▸ .unsaved r pair e hok hread hsaved
        | ok u =>
          have hsaved : (s.client.store.set pair).2 = .ok () := by rw [hset]
          have hstore : (s.client.store.set pair).1 = store := by rw [hset]
          simp only [loggedIn, Except.bind, hres, hdec, hset]
          exact hstore ▸ .loggedIn r pair hok hread hsaved
    · have hfail : r.isSuccess = false := by simpa using hok
      have hres : r.intoResult = .error (.requestFailed ⟨r.status, r.reason, r.json?⟩) := by
        simp [Http.Response.intoResult, hfail]
      simp only [loggedIn, Except.bind, hres]
      exact .rejected r hfail

section LoginEnd

variable {s₀ s₁ : Store} {st st' : SessionState} {raw : Reply} {o : Except Failure Unit}

/-- A login succeeds exactly when its reply is in 2xx, the body is a token pair and the pair is
stored. -/
theorem LoginEnd.ok_iff (h : LoginEnd s₀ st raw o s₁ st') :
    o = .ok () ↔ ∃ r pair, raw = .ok r ∧ r.isSuccess = true ∧
      Json.Reader.runDocument (Pair.reader "TokenPairResponse") r.body = .ok pair ∧
      (s₀.set pair).2 = .ok () := by
  cases h with
  | unanswered f => simp
  | rejected r hfail => simp [hfail]
  | undecodable r e hok hread => simp [hread]
  | unsaved r pair e hok hread hsaved =>
    simp only [reduceCtorEq, false_iff, not_exists, not_and]
    intro r' pair' hr _ hread' hsaved'
    cases hr
    rw [hread] at hread'
    cases hread'
    rw [hsaved] at hsaved'
    cases hsaved'
  | loggedIn r pair hok hread hsaved => exact iff_of_true rfl ⟨r, pair, rfl, hok, hread, hsaved⟩

/-- A login that succeeds stores the pair of its reply and authenticates without a profile. -/
theorem LoginEnd.of_ok (h : LoginEnd s₀ st raw o s₁ st') (ho : o = .ok ()) {r : Http.Response}
    {pair : Pair} (hr : raw = .ok r)
    (hread : Json.Reader.runDocument (Pair.reader "TokenPairResponse") r.body = .ok pair) :
    s₁ = (s₀.set pair).1 ∧ st' = .authenticated none := by
  cases h with
  | unanswered f => cases ho
  | rejected r' _ => cases ho
  | undecodable r' e _ _ => cases ho
  | unsaved r' pair' e _ _ _ => cases ho
  | loggedIn r' pair' _ hread' _ =>
    cases hr
    rw [hread] at hread'
    cases hread'
    exact ⟨rfl, rfl⟩

/-- A login that fails leaves the state as it was, and the store too when a failed write leaves
it as it was. -/
theorem LoginEnd.of_error (hset : ∀ pair, (s₀.set pair).2 ≠ .ok () → (s₀.set pair).1 = s₀)
    (h : LoginEnd s₀ st raw o s₁ st') (ho : o ≠ .ok ()) : s₁ = s₀ ∧ st' = st := by
  cases h with
  | unanswered f => exact ⟨rfl, rfl⟩
  | rejected r _ => exact ⟨rfl, rfl⟩
  | undecodable r e _ _ => exact ⟨rfl, rfl⟩
  | unsaved r pair e _ _ hsaved => exact ⟨hset pair (by rw [hsaved]; simp), rfl⟩
  | loggedIn r pair _ _ _ => exact absurd rfl ho

end LoginEnd

/-- The login call: `POST` to the login path with the email and password as its body, no
headers, as a first attempt. -/
theorem loginRequest_shape (s : Session ν) (cr : Credentials) :
    (s.loginRequest cr).method = .post ∧ (s.loginRequest cr).target = s.client.endpoints.login ∧
      (s.loginRequest cr).headers = [] ∧
      (s.loginRequest cr).body =
        some (.object [("email", .string cr.email), ("password", .string cr.password)]) ∧
      (s.loginRequest cr).attempt = .fresh :=
  ⟨rfl, rfl, rfl, rfl, rfl⟩

section Logged

variable {tr : Transport ν φ} {k : Nat} {s s' : Session (ν × Ledger)}

/-- Completing a login changes nothing of the client but its store. -/
theorem loggedIn_client (reply : Reply) (s : Session ν) :
    (s.loggedIn reply).1.client = { s.client with store := (s.loggedIn reply).1.client.store } := by
  unfold loggedIn
  split
  · rfl
  · next pair _ =>
    rcases s.client.store.set pair with ⟨store, saved⟩
    cases saved <;> rfl

/-- A login sends the login call and nothing else, and its reply ends it as `LoginEnd` says. -/
theorem Performs.login_ends {cr : Credentials} {r : Result}
    (h : Performs (tr.logged k) s (.login cr) s' r) :
    ∃ q raw o, r = .login o ∧ q.method = .post ∧ q.target = s.client.endpoints.login ∧
      q.headers = [] ∧
      q.body = some (.object [("email", .string cr.email), ("password", .string cr.password)]) ∧
      q.attempt = .fresh ∧
      s'.client.net.2 = (s.client.net.2.send k q).reply s.client.net.2.sent.length raw ∧
      s'.client.coordinator = s.client.coordinator ∧
      LoginEnd s.client.store s.state raw o s'.client.store s'.state := by
  cases h with
  | @login _ c' reply hrun =>
    obtain ⟨raw, rfl, hc, hnet⟩ := Polled.start_unrenewed hrun
    obtain ⟨hpost, htarget, hheaders, hbody, hfresh⟩ := loginRequest_shape s cr
    have hend := loggedIn_loginEnd raw { s with client := c' }
    have hclient := loggedIn_client (raw.bind Http.Response.intoResult) { s with client := c' }
    have hstore : c'.store = s.client.store := by rw [hc]
    have hco : c'.coordinator = s.client.coordinator := by rw [hc]
    refine ⟨_, raw, _, rfl, hpost, htarget, hheaders, hbody, hfresh, ?_, ?_, ?_⟩
    · rw [hclient]
      exact hnet
    · rw [hclient]
      exact hco
    · rw [← hstore]
      exact hend

/-- The probe ends authenticated with the profile it gives, or anonymous when it gives none. -/
theorem probed_state (reply : Reply) (s : Session ν) :
    (s.probed reply).1.state = match (s.probed reply).2 with
      | some p => .authenticated (some p)
      | none => .anonymous := by
  unfold probed
  split <;> rfl

/-- **Login, logout and the probe.** Over a store whose failed writes leave it as it was, take
an operation run to its end, whatever the backend answers. A login sends exactly one request,
the login call: `POST` to the login path with the credentials as its body and no headers, so no
bearer even when a pair is stored, and nothing else, so no renewal even on a 401. It succeeds
exactly when the reply is in 2xx, its body is a token pair and the pair is stored, and then the
store holds the result of storing that pair and the session is authenticated without a profile;
on any failure the store and the state are as they were. A logout ends anonymous with the
store cleared, whatever clearing gives. The probe gives a profile or none, never a failure, and
ends authenticated with the profile it gives, or anonymous when it gives none. -/
theorem Performs.operations {op : Op} {r : Result}
    (hset : ∀ pair, (s.client.store.set pair).2 ≠ .ok () →
      (s.client.store.set pair).1 = s.client.store)
    (h : Performs (tr.logged k) s op s' r) :
    (∀ cr, op = .login cr → ∃ q raw o, r = .login o ∧ q.method = .post ∧
      q.target = s.client.endpoints.login ∧ q.headers = [] ∧
      q.body = some (.object [("email", .string cr.email), ("password", .string cr.password)]) ∧
      q.attempt = .fresh ∧
      s'.client.net.2 = (s.client.net.2.send k q).reply s.client.net.2.sent.length raw ∧
      (o = .ok () ↔ ∃ resp pair, raw = .ok resp ∧ resp.isSuccess = true ∧
        Json.Reader.runDocument (Pair.reader "TokenPairResponse") resp.body = .ok pair ∧
        (s.client.store.set pair).2 = .ok ()) ∧
      (∀ resp pair, raw = .ok resp →
        Json.Reader.runDocument (Pair.reader "TokenPairResponse") resp.body = .ok pair →
        o = .ok () → s'.client.store = (s.client.store.set pair).1 ∧
          s'.state = .authenticated none) ∧
      (o ≠ .ok () → s'.client.store = s.client.store ∧ s'.state = s.state)) ∧
    (op = .logout → s'.state = .anonymous ∧ s'.client.store = s.client.store.clear.1) ∧
    (op = .fetchProfile → ∃ found, r = .profile found ∧ s'.state = match found with
      | some p => .authenticated (some p)
      | none => .anonymous) := by
  refine ⟨?_, ?_, ?_⟩
  · rintro cr rfl
    obtain ⟨q, raw, o, hr, hpost, htarget, hheaders, hbody, hfresh, hnet, -, hend⟩ :=
      Performs.login_ends h
    refine ⟨q, raw, o, hr, hpost, htarget, hheaders, hbody, hfresh, hnet, hend.ok_iff, ?_,
      hend.of_error hset⟩
    intro resp pair hraw hread ho
    exact hend.of_ok ho hraw hread
  · rintro rfl
    cases h
    exact ⟨rfl, rfl⟩
  · rintro rfl
    cases h with
    | fetchProfile _ => exact ⟨_, rfl, probed_state _ _⟩

end Logged

/-- A login over a store in memory holding the pair `a`, `r`, refused with a 401. -/
theorem Performs.refusedLogin_operations :
    let tr := Transport.immediate fun _ => .ok { status := 401 }
    let s : Session (Unit × Ledger) :=
      { client := { store := .memory (some (.of "a" "r")), net := ((), {}) } }
    let cr : Credentials := ⟨"user@example.com", "secret"⟩
    let c' : Client (Unit × Ledger) :=
      { s.client with net := ((), (({} : Ledger).send 0 (s.loginRequest cr)).reply 0
          (.ok { status := 401 })) }
    let x := { s with client := c' }.loggedIn
      ((Except.ok { status := 401 } : Reply).bind Http.Response.intoResult)
    let s' := x.1
    let r : Result := .login x.2
    (∀ pair, (s.client.store.set pair).2 ≠ .ok () → (s.client.store.set pair).1 = s.client.store) ∧
      Performs (tr.logged 0) s (.login cr) s' r ∧
      (∀ cr₁, Op.login cr = .login cr₁ → ∃ q raw o, r = .login o ∧ q.method = .post ∧
        q.target = s.client.endpoints.login ∧ q.headers = [] ∧
        q.body = some (.object [("email", .string cr₁.email), ("password", .string cr₁.password)]) ∧
        q.attempt = .fresh ∧
        s'.client.net.2 = (s.client.net.2.send 0 q).reply s.client.net.2.sent.length raw ∧
        (o = .ok () ↔ ∃ resp pair, raw = .ok resp ∧ resp.isSuccess = true ∧
          Json.Reader.runDocument (Pair.reader "TokenPairResponse") resp.body = .ok pair ∧
          (s.client.store.set pair).2 = .ok ()) ∧
        (∀ resp pair, raw = .ok resp →
          Json.Reader.runDocument (Pair.reader "TokenPairResponse") resp.body = .ok pair →
          o = .ok () → s'.client.store = (s.client.store.set pair).1 ∧
            s'.state = .authenticated none) ∧
        (o ≠ .ok () → s'.client.store = s.client.store ∧ s'.state = s.state)) ∧
      (Op.login cr = .logout → s'.state = .anonymous ∧ s'.client.store = s.client.store.clear.1) ∧
      (Op.login cr = .fetchProfile → ∃ found, r = .profile found ∧ s'.state = match found with
        | some p => .authenticated (some p)
        | none => .anonymous) := by
  intro tr s cr c' x s' r
  have hset : ∀ pair, (s.client.store.set pair).2 ≠ .ok () →
      (s.client.store.set pair).1 = s.client.store := fun _ hfail => absurd rfl hfail
  have h : Performs (tr.logged 0) s (.login cr) s' r := .login .ready
  exact ⟨hset, h, Performs.operations hset h⟩

end Session

end BearerSession
