import BearerSession.Proofs.RenewalEnd

/-!
# A request sent alone

A request sent through the client and polled to its end, with no other caller in between, runs
along one of a few paths, and `Sends` names them:

* with renewal off the store is not read: the request goes once, as it is, and its reply answers
  it, so the coordinator is never asked;
* with renewal on, a store that cannot be read answers with its failure and nothing is sent;
  otherwise the request goes with the stored access token as its bearer, or as it is when none is
  stored, and its reply answers it unless it is a 401 to a first attempt;
* a 401 to a first attempt asks the coordinator for a fresh token, naming the token that was
  sent as the refused one. A failed renewal answers with its failure and nothing more is sent;
  a fresh token sends the request once more, marked as the replay and with that token, and the
  reply to the replay answers.

A reply answers as `Http.Response.intoResult` reads it: a response in 2xx as it is, any other as
the rejection with its status, reason and JSON body; a transport failure answers as it is. So a
request goes out at most twice and asks for at most one renewal, a failed renewal never answers
with the stale 401, and a replay never renews.

The run of a request is followed stage by stage: each stage of `Exchange.poll` is a run of its
own that hands over to the next once it is ready (`Poll.andThen`, `Polled.andThen_iff`). The
main statement is `Polled.start_iff_sends`.
-/

namespace BearerSession.Client

variable {ν φ : Type}

/-! ## Runs one after the other -/

/-- A run that goes on with `k` once it is ready; while it is pending, its state is wrapped by
`inj`. -/
def Poll.andThen {σ τ α β : Type} (inj : σ → τ) (k : Client ν → α → Client ν × Poll τ β) :
    Client ν × Poll σ α → Client ν × Poll τ β
  | (c, .pending s) => (c, .pending (inj s))
  | (c, .ready a) => k c a

section Sequence

variable {σ τ α β : Type} {poll₁ : σ → Client ν → Client ν × Poll σ α}
  {poll : τ → Client ν → Client ν × Poll τ β} {inj : σ → τ}
  {k : Client ν → α → Client ν × Poll τ β}

/-- A run of `poll₁` to its end followed by a run from what `k` gives is a run that goes on with
`k`, when `poll` polls a wrapped state as `poll₁` does and then goes on with `k`. -/
theorem Polled.andThen (hpoll : ∀ s c, poll (inj s) c = Poll.andThen inj k (poll₁ s c))
    {x : Client ν × Poll σ α} {z : Client ν × α} {y : Client ν × β} (h₁ : Polled poll₁ x z)
    (h₂ : Polled poll (k z.1 z.2) y) : Polled poll (Poll.andThen inj k x) y := by
  induction h₁ with
  | ready => exact h₂
  | @pending c₀ s z _ ih =>
    refine .pending ?_
    rw [hpoll]
    exact ih h₂

/-- When `poll` polls a wrapped state as `poll₁` does and then goes on with `k`, a run that goes
on with `k` is a run of `poll₁` to its end followed by a run from what `k` gives. -/
theorem Polled.andThen_iff (hpoll : ∀ s c, poll (inj s) c = Poll.andThen inj k (poll₁ s c))
    {x : Client ν × Poll σ α} {y : Client ν × β} :
    Polled poll (Poll.andThen inj k x) y ↔
      ∃ c a, Polled poll₁ x (c, a) ∧ Polled poll (k c a) y := by
  constructor
  · -- the run of the whole is followed from its front, one poll at a time
    intro h
    generalize hX : Poll.andThen inj k x = X at h
    induction h generalizing x with
    | ready =>
      rcases x with ⟨c, s | a⟩
      · cases hX
      · refine ⟨c, a, .ready, ?_⟩
        show Polled poll (Poll.andThen inj k (c, .ready a)) _
        rw [hX]
        exact .ready
    | @pending c₀ t y hrest ih =>
      rcases x with ⟨c, s | a⟩
      · obtain ⟨rfl, rfl⟩ : c = c₀ ∧ inj s = t := by
          simpa [Poll.andThen] using hX
        obtain ⟨c₁, a, h₁, h₂⟩ := ih (hpoll s c).symm
        exact ⟨c₁, a, .pending h₁, h₂⟩
      · refine ⟨c, a, .ready, ?_⟩
        show Polled poll (Poll.andThen inj k (c, .ready a)) y
        rw [hX]
        exact .pending hrest
  · rintro ⟨c, a, h₁, h₂⟩
    exact Polled.andThen hpoll h₁ h₂

end Sequence

/-! ## The transport as steps of the client -/

/-- A request handed to the transport, as a step of the client: only the network changes. -/
def Transport.sendOn (tr : Transport ν φ) (q : Http.Request) (c : Client ν) :
    Client ν × Poll φ Reply :=
  ({ c with net := (tr.send q c.net).1 }, (tr.send q c.net).2)

/-- A poll of the transport, as a step of the client. -/
def Transport.pollOn (tr : Transport ν φ) (f : φ) (c : Client ν) : Client ν × Poll φ Reply :=
  ({ c with net := (tr.poll f c.net).1 }, (tr.poll f c.net).2)

/-- The request `q` goes once to the transport, which is polled until it answers `r`; the
client goes from `c` to `c'`. -/
def Dispatched (tr : Transport ν φ) (q : Http.Request) (c c' : Client ν) (r : Reply) : Prop :=
  Polled tr.pollOn (tr.sendOn q c) (c', r)

/-! ## The stages of a request -/

section Stages

variable (tr : Transport ν φ) (s : Sending)

/-- A poll of the first attempt polls the transport, then carries on after the reply. -/
theorem poll_first (f : φ) (c : Client ν) :
    Exchange.poll tr ⟨s, .first f⟩ c =
      Poll.andThen (fun f => ⟨s, .first f⟩) (fun c r => answered tr s r c) (tr.pollOn f c) := by
  rcases hp : tr.poll f c.net with ⟨net, g | r⟩ <;>
    simp [Exchange.poll, Transport.pollOn, Poll.andThen, hp]

/-- Carrying on after a step of renewal waits for its end. -/
theorem renewed_eq (x : Client ν × Poll (Renewal φ) Renewed) :
    renewed tr s x =
      Poll.andThen (fun r => ⟨s, .renewing r⟩) (fun c res => renewed tr s (c, .ready res)) x := by
  rcases x with ⟨c, r | res⟩ <;> rfl

/-- A poll of a renewal polls it, then carries on after its end. -/
theorem poll_renewing (r : Renewal φ) (c : Client ν) :
    Exchange.poll tr ⟨s, .renewing r⟩ c =
      Poll.andThen (fun r => ⟨s, .renewing r⟩) (fun c res => renewed tr s (c, .ready res))
        (r.poll tr c) :=
  renewed_eq tr s (r.poll tr c)

/-- A poll of the replay polls the transport; its reply, read by the client, is the answer. -/
theorem poll_replay (f : φ) (c : Client ν) :
    Exchange.poll tr ⟨s, .replay f⟩ c =
      Poll.andThen (fun f => ⟨s, .replay f⟩)
        (fun c r => (c, .ready (r.bind Http.Response.intoResult))) (tr.pollOn f c) := by
  rcases hp : tr.poll f c.net with ⟨net, g | r⟩ <;>
    simp [Exchange.poll, Transport.pollOn, Poll.andThen, hp]

/-- The replay is sent marked as such and with the fresh token as its bearer. -/
theorem replay_eq (fresh : AccessToken) (c : Client ν) :
    replay tr s fresh c =
      Poll.andThen (fun f => ⟨s, .replay f⟩)
        (fun c r => (c, .ready (r.bind Http.Response.intoResult)))
        (tr.sendOn (s.request.retried.withBearer fresh) c) := by
  rcases hp : tr.send (s.request.retried.withBearer fresh) c.net with ⟨net, g | r⟩ <;>
    simp [replay, Transport.sendOn, Poll.andThen, hp]

/-- A request whose token was read is sent with it as its bearer. -/
theorem start_eq {q : Http.Request} {renews : Bool} {c : Client ν} {token : Option AccessToken}
    (ht : (if renews then c.store.accessToken else .ok none) = .ok token) :
    start tr q renews c =
      Poll.andThen (fun f => ⟨⟨q, renews, token⟩, .first f⟩)
        (fun c r => answered tr ⟨q, renews, token⟩ r c) (tr.sendOn (q.bearing token) c) := by
  unfold start
  rw [ht]
  dsimp only
  cases token with
  | none =>
    rcases hp : tr.send q c.net with ⟨net, g | r⟩ <;>
      simp [Transport.sendOn, Poll.andThen, Http.Request.bearing, hp]
  | some t =>
    rcases hp : tr.send (q.withBearer t) c.net with ⟨net, g | r⟩ <;>
      simp [Transport.sendOn, Poll.andThen, Http.Request.bearing, hp]

/-- A reply that is no 401 to a first attempt with renewal on answers as the client reads it. -/
theorem answered_of_not_renewable {reply : Reply}
    (h : ∀ resp, reply = .ok resp → s.renewable resp = false) (c : Client ν) :
    answered tr s reply c = (c, .ready (reply.bind Http.Response.intoResult)) := by
  rcases reply with f | resp
  · rfl
  · simp [answered, h resp rfl, Except.bind]

/-- A 401 to a first attempt with renewal on asks for a fresh token, naming the token sent. -/
theorem answered_of_renewable {resp : Http.Response} (h : s.renewable resp = true)
    (c : Client ν) : answered tr s (.ok resp) c = renewed tr s (ensureFresh tr s.token c) := by
  simp [answered, h]

end Stages

section Runs

variable {tr : Transport ν φ} {s : Sending}

theorem Polled.first_iff {x : Client ν × Poll φ Reply} {y : Client ν × Reply} :
    Polled (Exchange.poll tr)
        (Poll.andThen (fun f => ⟨s, .first f⟩) (fun c r => answered tr s r c) x) y ↔
      ∃ c r, Polled tr.pollOn x (c, r) ∧ Polled (Exchange.poll tr) (answered tr s r c) y :=
  Polled.andThen_iff (poll_first tr s)

theorem Polled.renewed_iff {x : Client ν × Poll (Renewal φ) Renewed} {y : Client ν × Reply} :
    Polled (Exchange.poll tr) (renewed tr s x) y ↔
      ∃ c res, Polled (Renewal.poll tr) x (c, res) ∧
        Polled (Exchange.poll tr) (renewed tr s (c, .ready res)) y := by
  rw [renewed_eq]
  exact Polled.andThen_iff (poll_renewing tr s)

/-- A replay polled to its end: the transport's reply, read by the client, answers. -/
theorem Polled.replay_iff {fresh : AccessToken} {c : Client ν} {y : Client ν × Reply} :
    Polled (Exchange.poll tr) (replay tr s fresh c) y ↔
      ∃ c' r, Dispatched tr (s.request.retried.withBearer fresh) c c' r ∧
        y = (c', r.bind Http.Response.intoResult) := by
  rw [replay_eq, Polled.andThen_iff (poll_replay tr s)]
  simp only [Polled.ready_iff, Dispatched]

end Runs

/-! ## The paths of a request -/

/-- How a request `q` sent alone through the client runs to its end, with renewal on or off:
from the client `c` it ends at the client `c'` with the answer `res`. -/
inductive Sends (tr : Transport ν φ) (q : Http.Request) : Bool → Client ν → Client ν → Reply → Prop
  /-- Renewal off: the store is not read; the request goes once, as it is, and the reply
  answers it. -/
  | plain {c c' : Client ν} {r : Reply} :
      Dispatched tr q c c' r → Sends tr q false c c' (r.bind Http.Response.intoResult)
  /-- Renewal on and a store that cannot be read: its failure, and nothing is sent. -/
  | unread {c : Client ν} {e : Failure} :
      c.store.accessToken = .error e → Sends tr q true c c (.error e)
  /-- Renewal on: the request goes with the stored token as its bearer, if any, and a reply that
  is no 401 to a first attempt answers it. -/
  | answered {c c' : Client ν} {token : Option AccessToken} {r : Reply} :
      c.store.accessToken = .ok token → Dispatched tr (q.bearing token) c c' r →
      (∀ resp, r = .ok resp → resp.status = 401 → q.attempt = .retried) →
      Sends tr q true c c' (r.bind Http.Response.intoResult)
  /-- A 401 to a first attempt asks for a fresh token, naming the token sent as refused; a
  failed renewal answers with its failure, and nothing more is sent. -/
  | renewalFailed {c c₁ c' : Client ν} {token : Option AccessToken} {resp : Http.Response}
      {e : Failure} :
      c.store.accessToken = .ok token → Dispatched tr (q.bearing token) c c₁ (.ok resp) →
      resp.status = 401 → q.attempt = .fresh →
      Polled (Renewal.poll tr) (ensureFresh tr token c₁) (c', .error e) →
      Sends tr q true c c' (.error e)
  /-- A fresh token sends the request once more, as the replay with that token as its bearer;
  the reply to the replay answers. -/
  | replayed {c c₁ c₂ c' : Client ν} {token : Option AccessToken} {resp : Http.Response}
      {fresh : AccessToken} {r : Reply} :
      c.store.accessToken = .ok token → Dispatched tr (q.bearing token) c c₁ (.ok resp) →
      resp.status = 401 → q.attempt = .fresh →
      Polled (Renewal.poll tr) (ensureFresh tr token c₁) (c₂, .ok fresh) →
      Dispatched tr (q.retried.withBearer fresh) c₂ c' r →
      Sends tr q true c c' (r.bind Http.Response.intoResult)

section Paths

variable {tr : Transport ν φ} {q : Http.Request} {c c' : Client ν} {res : Reply}

/-- Whether a reply calls for a renewal, in the words of the paths. -/
theorem renewable_iff {token : Option AccessToken} {resp : Http.Response} :
    Sending.renewable ⟨q, true, token⟩ resp = true ↔ resp.status = 401 ∧ q.attempt = .fresh := by
  cases h : q.attempt <;> simp [Sending.renewable, Http.Response.isUnauthorized, h, and_comm]

/-- The run of a request from the reply to its first attempt, with renewal on. -/
theorem Polled.answered_sends {token : Option AccessToken} {c₁ : Client ν} {r : Reply}
    (htoken : c.store.accessToken = .ok token) (hd : Dispatched tr (q.bearing token) c c₁ r)
    (h : Polled (Exchange.poll tr) (answered tr ⟨q, true, token⟩ r c₁) (c', res)) :
    Sends tr q true c c' res := by
  by_cases hren : ∃ resp, r = .ok resp ∧ resp.status = 401 ∧ q.attempt = .fresh
  · obtain ⟨resp, rfl, h401, hfresh⟩ := hren
    rw [answered_of_renewable tr _ (renewable_iff.2 ⟨h401, hfresh⟩), Polled.renewed_iff] at h
    obtain ⟨c₂, res₁, hrenew, hrest⟩ := h
    rcases res₁ with e | fresh
    · rw [show renewed tr ⟨q, true, token⟩ (c₂, .ready (.error e)) = (c₂, .ready (.error e))
        from rfl, Polled.ready_iff, Prod.mk.injEq] at hrest
      obtain ⟨rfl, rfl⟩ := hrest
      exact .renewalFailed htoken hd h401 hfresh hrenew
    · obtain ⟨c₃, r₂, hd₂, hy⟩ := Polled.replay_iff.1 hrest
      rw [Prod.mk.injEq] at hy
      obtain ⟨rfl, rfl⟩ := hy
      exact .replayed htoken hd h401 hfresh hrenew hd₂
  · -- no renewal: the reply answers
    have hnot : ∀ resp, r = .ok resp → resp.status = 401 → q.attempt = .retried := by
      intro resp hr h401
      cases hq : q.attempt
      · exact absurd ⟨resp, hr, h401, hq⟩ hren
      · rfl
    have hanswer : ∀ resp, r = .ok resp → Sending.renewable ⟨q, true, token⟩ resp = false := by
      intro resp hr
      cases hb : Sending.renewable ⟨q, true, token⟩ resp
      · rfl
      · obtain ⟨h401, hfresh⟩ := renewable_iff.1 hb
        rw [hnot resp hr h401] at hfresh
        cases hfresh
    rw [answered_of_not_renewable tr _ hanswer, Polled.ready_iff, Prod.mk.injEq] at h
    obtain ⟨rfl, rfl⟩ := h
    exact .answered htoken hd hnot

/-- Every run of a request sent alone follows one of the paths. -/
theorem Polled.sends {renews : Bool}
    (h : Polled (Exchange.poll tr) (start tr q renews c) (c', res)) : Sends tr q renews c c' res := by
  cases renews with
  | false =>
    rw [start_eq tr (if_neg Bool.false_ne_true), Polled.first_iff] at h
    obtain ⟨c₁, r, hd, hrest⟩ := h
    rw [answered_of_not_renewable tr _ (fun _ _ => rfl), Polled.ready_iff, Prod.mk.injEq] at hrest
    obtain ⟨rfl, rfl⟩ := hrest
    exact .plain hd
  | true =>
    rcases htoken : c.store.accessToken with e | token
    · have hstart : start tr q true c = (c, .ready (.error e)) := by
        simp [start, htoken]
      rw [hstart, Polled.ready_iff, Prod.mk.injEq] at h
      obtain ⟨rfl, rfl⟩ := h
      exact .unread htoken
    · rw [start_eq tr (by simpa using htoken), Polled.first_iff] at h
      obtain ⟨c₁, r, hd, hrest⟩ := h
      exact Polled.answered_sends htoken hd hrest

/-- Every path is a run of the request. -/
theorem Sends.polled {renews : Bool} (h : Sends tr q renews c c' res) :
    Polled (Exchange.poll tr) (start tr q renews c) (c', res) := by
  cases h with
  | plain hd =>
    rw [start_eq tr (if_neg Bool.false_ne_true), Polled.first_iff]
    refine ⟨_, _, hd, ?_⟩
    rw [answered_of_not_renewable tr _ (fun _ _ => rfl)]
    exact .ready
  | unread htoken =>
    simp only [start, if_true, htoken]
    exact .ready
  | answered htoken hd hnot =>
    rw [start_eq tr (by simpa using htoken), Polled.first_iff]
    refine ⟨_, _, hd, ?_⟩
    rw [answered_of_not_renewable tr _ fun resp hr => ?_]
    · exact .ready
    · cases hb : Sending.renewable ⟨q, true, _⟩ resp
      · rfl
      · obtain ⟨h401, hfresh⟩ := renewable_iff.1 hb
        rw [hnot resp hr h401] at hfresh
        cases hfresh
  | renewalFailed htoken hd h401 hfresh hrenew =>
    rw [start_eq tr (by simpa using htoken), Polled.first_iff]
    refine ⟨_, _, hd, ?_⟩
    rw [answered_of_renewable tr _ (renewable_iff.2 ⟨h401, hfresh⟩), Polled.renewed_iff]
    exact ⟨_, _, hrenew, .ready⟩
  | replayed htoken hd h401 hfresh hrenew hd₂ =>
    rw [start_eq tr (by simpa using htoken), Polled.first_iff]
    refine ⟨_, _, hd, ?_⟩
    rw [answered_of_renewable tr _ (renewable_iff.2 ⟨h401, hfresh⟩), Polled.renewed_iff]
    exact ⟨_, _, hrenew, Polled.replay_iff.2 ⟨_, _, hd₂, rfl⟩⟩

/-- **A request sent alone.** A request sent through the client with renewal on or off, and
polled to its end with nothing in between, runs exactly along the paths of `Sends`: with renewal
off it goes once as it is and its reply answers; with renewal on it goes with the stored token,
if any, and only a 401 to a first attempt asks the coordinator for a fresh token, naming the
token sent; a failed renewal answers with its failure, and a fresh token sends the replay with
it once, whose reply answers. -/
theorem Polled.start_iff_sends {renews : Bool} :
    Polled (Exchange.poll tr) (start tr q renews c) (c', res) ↔ Sends tr q renews c c' res :=
  ⟨Polled.sends, Sends.polled⟩

end Paths

end BearerSession.Client
