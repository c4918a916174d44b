import BearerSession.Proofs.FailedRenewal

/-!
# How a wave of renewal ends

A leader that is not dropped renews in two kinds of step: its first one (`lead`), which reads
the refresh token and sends the renewal call, and polls of that call until the reply arrives.
`Polled` is such a run, one step after the other until the value is ready.

The end of the wave is fixed by what the store holds and by the reply (`WaveEnd`). With no pair
stored the outcome is `noRefreshToken`, and with a store that cannot be read it is a refusal
without a status that says so; in both cases nothing is sent. Otherwise exactly one call is
sent, `POST` to the refresh path with the body `{"refresh_token": r}`, no headers and as a
first attempt, and its reply decides the rest (`Concluded`): a transport failure, a status
outside 2xx, a body that is not a pair and a pair that cannot be stored each give their own
refusal, and the store is cleared; a stored pair gives its access token. The followers get the
same outcome as the leader. The main statement is `Polled.lead_ends`.
-/

namespace BearerSession.Client

variable {ν φ : Type}

/-- Polling with `poll` what is left under way, with nothing in between, until it is ready:
from `x` the run ends at the client and value `y`. -/
inductive Polled {σ α : Type} (poll : σ → Client ν → Client ν × Poll σ α) :
    Client ν × Poll σ α → Client ν × α → Prop
  | ready {c : Client ν} {a : α} : Polled poll (c, .ready a) (c, a)
  | pending {c : Client ν} {x : σ} {y : Client ν × α} :
      Polled poll (poll x c) y → Polled poll (c, .pending x) y

/-- A run that is already over ends where it is. -/
theorem Polled.ready_iff {σ α : Type} {poll : σ → Client ν → Client ν × Poll σ α} {c : Client ν}
    {a : α} {y : Client ν × α} : Polled poll (c, .ready a) y ↔ y = (c, a) := by
  constructor
  · rintro ⟨⟩
    rfl
  · rintro rfl
    exact .ready

/-- How the reply `r` to a renewal call ends a wave over the store `s`: its outcome, and the
store the wave leaves. -/
inductive Concluded (s : Store) : Reply → RenewalOutcome → Store → Prop
  /-- No response arrived: a refusal without a status, with the failure's text. -/
  | unanswered (f : Failure) :
      Concluded s (.error f) (.error (.refused ⟨none, f.message⟩)) s.clear.1
  /-- A status outside 2xx: a refusal with the status and the reason phrase, if any. -/
  | rejected (r : Http.Response) : r.isSuccess = false →
      Concluded s (.ok r) (.error (.refused ⟨some r.status, r.reason.getD "renewal rejected"⟩))
        s.clear.1
  /-- A body in 2xx that is not a token pair: a refusal with the status and the reading error,
  as a failure to decode the body. -/
  | undecodable (r : Http.Response) (e : Json.DecodeError) : r.isSuccess = true →
      Json.Reader.runDocument (Pair.reader "TokenPairResponse") r.body = .error e →
      Concluded s (.ok r)
        (.error (.refused ⟨some r.status, (Failure.transport (.decode e.message)).message⟩))
        s.clear.1
  /-- A pair that cannot be stored: a refusal without a status that says so; the store is
  cleared after the failed write. -/
  | unsaved (r : Http.Response) (pair : Pair) (e : Failure) : r.isSuccess = true →
      Json.Reader.runDocument (Pair.reader "TokenPairResponse") r.body = .ok pair →
      (s.set pair).2 = .error e →
      Concluded s (.ok r)
        (.error (.refused ⟨none, "could not persist renewed credentials: " ++ e.message⟩))
        (s.set pair).1.clear.1
  /-- A pair that is stored: its access token. -/
  | renewed (r : Http.Response) (pair : Pair) : r.isSuccess = true →
      Json.Reader.runDocument (Pair.reader "TokenPairResponse") r.body = .ok pair →
      (s.set pair).2 = .ok () →
      Concluded s (.ok r) (.ok pair.access) (s.set pair).1

/-- How the wave of task `k` ends, from the store `s` and the ledger `l` as it began: its
outcome, the store it leaves and the ledger after it. -/
inductive WaveEnd (e : Endpoints) (k : Nat) (s : Store) (l : Ledger) :
    RenewalOutcome → Store → Ledger → Prop
  /-- No pair is stored: nothing is sent. -/
  | noPair : s.refreshToken = .ok none → WaveEnd e k s l (.error .noRefreshToken) s.clear.1 l
  /-- The store cannot be read: nothing is sent. -/
  | unreadable (f : Failure) : s.refreshToken = .error f →
      WaveEnd e k s l
        (.error (.refused ⟨none, "could not read stored credentials: " ++ f.message⟩))
        s.clear.1 l
  /-- The stored refresh token `t` goes in one call, whose reply ends the wave. -/
  | called (t : RefreshToken) (q : Http.Request) (r : Reply) {o : RenewalOutcome} {s' : Store} :
      s.refreshToken = .ok (some t) → q.method = .post → q.target = e.refresh →
      q.headers = [] → q.body = some (.object [("refresh_token", .string t.value)]) →
      q.attempt = .fresh → Concluded s r o s' →
      WaveEnd e k s l o s' ((l.send k q).reply l.sent.length r)

/-! ## The reply to the renewal call -/

/-- A body read as a pair through `decode`: what the document reader gives. -/
theorem decode_eq_ok {α : Type} {r : Http.Response} {reader : Json.Reader α} {a : α} :
    r.decode reader = .ok a ↔ Json.Reader.runDocument reader r.body = .ok a := by
  unfold Http.Response.decode
  split <;> simp_all

/-- A body that does not read: the reading error, as a failure to decode the body. -/
theorem decode_eq_error {α : Type} {r : Http.Response} {reader : Json.Reader α} {f : Failure} :
    r.decode reader = .error f ↔
      ∃ e, Json.Reader.runDocument reader r.body = .error e ∧ f = .transport (.decode e.message) := by
  rcases hrun : Json.Reader.runDocument reader r.body with e | a <;>
    simp [Http.Response.decode, hrun, eq_comm]

/-- Concluding a wave on a reply and ending it leaves the store and the outcome as `Concluded`
says. -/
theorem conclude_concluded (reply : Reply) (c : Client ν) :
    Concluded c.store reply (conclude reply c).2
      ((conclude reply c).1.settle (conclude reply c).2).store := by
  unfold conclude
  rcases reply with f | r
  · exact .unanswered f
  · dsimp only
    split
    · next hfail =>
      exact .rejected r (by simpa using hfail)
    · next hsuccess =>
      have hok : r.isSuccess = true := by simpa using hsuccess
      split
      · next f hdecode =>
        obtain ⟨e, hread, rfl⟩ := decode_eq_error.1 hdecode
        exact .undecodable r e hok hread
      · next pair hdecode =>
        have hread := decode_eq_ok.1 hdecode
        rcases hset : c.store.set pair with ⟨store, saved⟩
        cases saved with
        | ok u =>
          have hsaved : (c.store.set pair).2 = .ok () := by rw [hset]
          have hstore : (c.store.set pair).1 = store := by rw [hset]
          exact hstore ▸ .renewed r pair hok hread hsaved
        | error e =>
          have hsaved : (c.store.set pair).2 = .error e := by rw [hset]
          have hstore : (c.store.set pair).1 = store := by rw [hset]
          exact hstore ▸ .unsaved r pair e hok hread hsaved

/-- A wave that ends on a reply: the leader's outcome goes to every follower, and the client
keeps its network state. -/
theorem finishWave_conclude (reply : Reply) (c : Client ν) :
    ∃ o, @finishWave ν φ (conclude reply c).2 (conclude reply c).1 =
        (((conclude reply c).1.settle o), .ready (o.mapError RenewalFailure.toFailure)) ∧
      ((conclude reply c).1.settle o).coordinator = c.coordinator.release o ∧
      ((conclude reply c).1.settle o).net = c.net ∧
      Concluded c.store reply o ((conclude reply c).1.settle o).store := by
  obtain ⟨hco, -, -⟩ := conclude_eq (Prod.eta (conclude reply c)).symm
  exact ⟨_, rfl, by simp [hco], by simp, conclude_concluded reply c⟩

/-! ## The leader's run -/

section Run

variable {tr : Transport ν φ} {k : Nat}

/-- One poll of the renewal call through the logging transport: the call stays in flight and
nothing else changes but the network, or its reply is put down at its place and concludes the
wave. -/
theorem leading_poll_logged (f : Nat × φ) (c : Client (ν × Ledger)) :
    (∃ c₁ g, (Renewal.leading f).poll (tr.logged k) c = (c₁, .pending (.leading g)) ∧
      g.1 = f.1 ∧ c₁.net.2 = c.net.2 ∧ c₁.store = c.store ∧ c₁.coordinator = c.coordinator) ∨
    ∃ c₁ r, (Renewal.leading f).poll (tr.logged k) c =
        finishWave (conclude r c₁).2 (conclude r c₁).1 ∧
      c₁.net.2 = c.net.2.reply f.1 r ∧ c₁.store = c.store ∧ c₁.coordinator = c.coordinator := by
  rcases hpoll : (tr.logged k).poll f c.net with ⟨net, g | r⟩
  · have hg := logged_poll_pending tr k (g := g) (by rw [hpoll])
    rw [hpoll] at hg
    exact .inl ⟨{ c with net }, g, by simp [Renewal.poll, hpoll], hg.1, hg.2, rfl, rfl⟩
  · have hr := logged_poll_ready tr k (r := r) (by rw [hpoll])
    rw [hpoll] at hr
    exact .inr ⟨{ c with net }, r, by simp [Renewal.poll, hpoll], hr, rfl, rfl⟩

/-- A leader whose renewal call is in flight at place `f.1`, polled until the wave ends: the
reply is put down there and ends the wave. -/
theorem Polled.leading_ends {x : Client (ν × Ledger) × Poll (Renewal (Nat × φ)) Renewed}
    {y : Client (ν × Ledger) × Renewed} (h : Polled (Renewal.poll (tr.logged k)) x y) :
    ∀ c f, x = (c, .pending (.leading f)) →
      ∃ r o, y.2 = o.mapError RenewalFailure.toFailure ∧
        y.1.coordinator = c.coordinator.release o ∧ y.1.net.2 = c.net.2.reply f.1 r ∧
        Concluded c.store r o y.1.store := by
  -- the run is followed from its front, one poll at a time
  induction h with
  | ready =>
    intro c f hx
    cases hx
  | @pending c₀ x₀ y hrest ih =>
    intro c f hx
    obtain ⟨rfl, rfl⟩ : c = c₀ ∧ Renewal.leading f = x₀ := by simpa [eq_comm] using hx
    rcases leading_poll_logged f c with ⟨c₁, g, hpoll, hg, hnet, hstore, hco⟩ |
      ⟨c₁, r, hpoll, hnet, hstore, hco⟩
    · obtain ⟨r, o, hres, hco', hnet', hcon⟩ := ih c₁ g hpoll
      refine ⟨r, o, hres, by rw [hco', hco], by rw [hnet', hnet, hg], hstore ▸ hcon⟩
    · obtain ⟨o, hfin, hco', hnet', hcon⟩ := finishWave_conclude (φ := Nat × φ) r c₁
      rw [hpoll, hfin, Polled.ready_iff] at hrest
      subst hrest
      refine ⟨r, o, rfl, by rw [hco', hco], by rw [hnet', hnet], hstore ▸ hcon⟩

/-- The renewal call: `POST` to the refresh path, with the refresh token as the only member of
its body, no headers, as a first attempt. -/
theorem refreshRequest_shape (e : Endpoints) (t : RefreshToken) :
    (e.refreshRequest t).method = .post ∧ (e.refreshRequest t).target = e.refresh ∧
      (e.refreshRequest t).headers = [] ∧
      (e.refreshRequest t).body = some (.object [("refresh_token", .string t.value)]) ∧
      (e.refreshRequest t).attempt = .fresh :=
  ⟨rfl, rfl, rfl, rfl, rfl⟩

/-- A leader that reads no refresh token ends its wave at once on `o`, sending nothing. -/
theorem Polled.lead_unsent {c c' : Client (ν × Ledger)} {res : Renewed} {o : RenewalOutcome}
    (hlead : lead (tr.logged k) c = finishWave o c)
    (h : Polled (Renewal.poll (tr.logged k)) (lead (tr.logged k) c) (c', res)) :
    res = o.mapError RenewalFailure.toFailure ∧ c' = c.settle o := by
  rw [hlead, finishWave, Polled.ready_iff, Prod.mk.injEq] at h
  exact ⟨h.2, h.1⟩

/-- **How a wave ends.** Whatever the store holds and however the transport answers, a leader
that is not dropped ends its wave as `WaveEnd` says: with no pair stored, or a store that cannot
be read, it fails at once without sending anything; otherwise it sends exactly one call, the
renewal call with the stored refresh token, and its reply gives the outcome and the store as
`Concluded` says. Every follower is sent the outcome the leader returns. -/
theorem Polled.lead_ends {c c' : Client (ν × Ledger)} {res : Renewed}
    (h : Polled (Renewal.poll (tr.logged k)) (lead (tr.logged k) c) (c', res)) :
    ∃ o, res = o.mapError RenewalFailure.toFailure ∧ c'.coordinator = c.coordinator.release o ∧
      WaveEnd c.endpoints k c.store c.net.2 o c'.store c'.net.2 := by
  rcases hread : c.store.refreshToken with f | _ | t
  · have hlead : lead (tr.logged k) c = finishWave (.error (.refused
        ⟨none, "could not read stored credentials: " ++ f.message⟩)) c := by
      simp [lead, hread, RenewalRefusal.noResponse]
    obtain ⟨hres, rfl⟩ := Polled.lead_unsent hlead h
    exact ⟨_, hres, rfl, .unreadable f hread⟩
  · have hlead : lead (tr.logged k) c = finishWave (.error .noRefreshToken) c := by
      simp [lead, hread]
    obtain ⟨hres, rfl⟩ := Polled.lead_unsent hlead h
    exact ⟨_, hres, rfl, .noPair hread⟩
  · obtain ⟨hpost, htarget, hheaders, hbody, hfresh⟩ := refreshRequest_shape c.endpoints t
    -- the call is sent; its reply comes at once or at a later poll
    rcases hsend : (tr.logged k).send (c.endpoints.refreshRequest t) c.net with ⟨net, f | r⟩
    · have hlead : lead (tr.logged k) c = ({ c with net }, .pending (.leading f)) := by
        simp [lead, hread, hsend]
      obtain ⟨hf, hnet⟩ := logged_send_pending tr k (f := f) (by rw [hsend])
      rw [hsend] at hnet
      rw [hlead] at h
      obtain ⟨r, o, hres, hco, hnet', hcon⟩ := Polled.leading_ends h _ f rfl
      refine ⟨o, hres, hco, ?_⟩
      rw [hnet', show ({ c with net } : Client (ν × Ledger)).net.2 = net.2 from rfl, hnet, hf]
      exact .called t _ r hread hpost htarget hheaders hbody hfresh hcon
    · have hlead : lead (tr.logged k) c =
          finishWave (conclude r { c with net }).2 (conclude r { c with net }).1 := by
        simp [lead, hread, hsend]
      have hnet := logged_send_ready tr k (r := r) (by rw [hsend])
      rw [hsend] at hnet
      obtain ⟨o, hfin, hco, hnet', hcon⟩ := finishWave_conclude (φ := Nat × φ) r { c with net }
      rw [hlead, hfin, Polled.ready_iff] at h
      cases h
      refine ⟨o, rfl, hco, ?_⟩
      rw [hnet', show ({ c with net } : Client (ν × Ledger)).net.2 = net.2 from rfl, hnet]
      exact .called t _ r hread hpost htarget hheaders hbody hfresh hcon

end Run

/-- A leader over a store holding the pair `a`, `r`, whose renewal call is refused at once with
a 503: the one call is made, the store is cleared, and the refusal is the outcome. -/
theorem Polled.refusedWave_ends :
    let tr := Transport.immediate fun _ => .ok { status := 503 }
    let c : Client (Unit × Ledger) := { store := .memory (some (.of "a" "r")), net := ((), {}) }
    let o : RenewalOutcome := .error (.refused ⟨some 503, "renewal rejected"⟩)
    let c' : Client (Unit × Ledger) :=
      { store := .memory none, coordinator := c.coordinator.release o,
        net := ((), (({} : Ledger).send 0 (c.endpoints.refreshRequest ⟨"r"⟩)).reply 0
          (.ok { status := 503 })) }
    Polled (Renewal.poll (tr.logged 0)) (lead (tr.logged 0) c)
        (c', o.mapError RenewalFailure.toFailure) ∧
      ∃ o', o.mapError RenewalFailure.toFailure = o'.mapError RenewalFailure.toFailure ∧
        c'.coordinator = c.coordinator.release o' ∧
        WaveEnd c.endpoints 0 c.store c.net.2 o' c'.store c'.net.2 := by
  intro tr c o c'
  have h : Polled (Renewal.poll (tr.logged 0)) (lead (tr.logged 0) c)
      (c', o.mapError RenewalFailure.toFailure) := .ready
  exact ⟨h, Polled.lead_ends h⟩

end BearerSession.Client
