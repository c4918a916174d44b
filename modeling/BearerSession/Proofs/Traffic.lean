import BearerSession.Proofs.WaveOutcome
import Mathlib.Logic.Relation

/-!
# What a step puts on the ledger

A step of one task is a sequence of events on the ledger and the store (`Event`): the
caller's request is sent or answered; a leader sends the renewal call with the refresh token
it read from the store, and only when no wave ran as the step began; the renewal call is
answered and the store settled on its reply (`SettledBy`); or a leader that has no refresh
token to send clears the store. Each task holds at most one request in flight (`Hold`), and a
reply is put down only for the request a task holds.

`Logs` says that a step does no more than that, keeps the endpoints, and keeps the caller's
request off the refresh path. Every function that a step runs is shown to log in this way,
and so is every step of a pool (`Pool.step_logs`).
-/

namespace BearerSession.Client

open Relation

variable {ν φ : Type}

/-! ## Replies to renewal calls -/

/-- The token pair a reply carries: a response in 2xx whose body reads as a pair. -/
def Reply.pair? : Reply → Option Pair
  | .error _ => none
  | .ok r => if r.isSuccess then (r.decode (Pair.reader "TokenPairResponse")).toOption else none

/-- The store as a wave leaves it on the reply `r` to its renewal call: the pair the reply
carries is stored, or, when the reply carries none or the pair cannot be stored, the store is
cleared. -/
inductive SettledBy (r : Reply) : Store → Store → Prop
  | stored {s : Store} (pair : Pair) : Reply.pair? r = some pair → (s.set pair).2 = .ok () →
      SettledBy r s (s.set pair).1
  | cleared {s : Store} : SettledBy r s s.clear.1
  | unsaved {s : Store} (pair : Pair) : Reply.pair? r = some pair → (s.set pair).2 ≠ .ok () →
      SettledBy r s (s.set pair).1.clear.1

/-- Ending a wave on the outcome of a reply settles the store on that reply. -/
theorem conclude_settledBy (reply : Reply) (c : Client ν) :
    SettledBy reply c.store ((conclude reply c).1.settle (conclude reply c).2).store := by
  unfold conclude
  rcases reply with e | r
  · exact .cleared
  · dsimp only
    split
    · exact .cleared
    · next hsuccess =>
      split
      · exact .cleared
      · next pair hdecode =>
        have hpair : Reply.pair? (.ok r) = some pair := by
          simp only [Bool.not_eq_true', Bool.not_eq_false] at hsuccess
          simp [Reply.pair?, hsuccess, hdecode, Except.toOption]
        rcases hset : c.store.set pair with ⟨store, saved⟩
        cases saved with
        | ok u =>
          have hok : (c.store.set pair).2 = .ok () := by rw [hset]
          have hstore : (c.store.set pair).1 = store := by rw [hset]
          exact hstore ▸ .stored pair hpair hok
        | error e =>
          have hfail : (c.store.set pair).2 ≠ .ok () := by rw [hset]; simp
          have hstore : (c.store.set pair).1 = store := by rw [hset]
          exact hstore ▸ .unsaved pair hpair hfail

/-! ## The logging transport -/

section Logged

variable (tr : Transport ν φ) (k : Nat) {q : Http.Request} {n net : ν × Ledger} {p : Poll (Nat × φ) Reply}

/-- Sending through the logging transport puts the request down, and its reply if it came. -/
theorem logged_send_eq (h : (tr.logged k).send q n = (net, p)) :
    (∃ f, p = .pending (n.2.sent.length, f) ∧ net.2 = n.2.send k q) ∨
      ∃ r, p = .ready r ∧ net.2 = (n.2.send k q).reply n.2.sent.length r := by
  unfold Transport.logged at h
  dsimp only at h
  split at h
  · cases h
    exact .inl ⟨_, rfl, rfl⟩
  · cases h
    exact .inr ⟨_, rfl, rfl⟩

/-- Polling through the logging transport puts the reply down at its place, if it came. -/
theorem logged_poll_eq {f : Nat × φ} (h : (tr.logged k).poll f n = (net, p)) :
    (∃ g, p = .pending (f.1, g) ∧ net.2 = n.2) ∨ ∃ r, p = .ready r ∧ net.2 = n.2.reply f.1 r := by
  unfold Transport.logged at h
  dsimp only at h
  split at h
  · cases h
    exact .inl ⟨_, rfl, rfl⟩
  · cases h
    exact .inr ⟨_, rfl, rfl⟩

/-- A send whose request is in flight put the request down, at the place its flight carries. -/
theorem logged_send_pending {f : Nat × φ} (h : ((tr.logged k).send q n).2 = .pending f) :
    f.1 = n.2.sent.length ∧ ((tr.logged k).send q n).1.2 = n.2.send k q := by
  rcases logged_send_eq tr k (Prod.eta ((tr.logged k).send q n)).symm with ⟨f', hp, hnet⟩ | ⟨r, hp, hnet⟩
  · rw [h] at hp
    cases hp
    exact ⟨rfl, hnet⟩
  · rw [h] at hp
    cases hp

/-- A send whose reply came at once put down the request and the reply. -/
theorem logged_send_ready {r : Reply} (h : ((tr.logged k).send q n).2 = .ready r) :
    ((tr.logged k).send q n).1.2 = (n.2.send k q).reply n.2.sent.length r := by
  rcases logged_send_eq tr k (Prod.eta ((tr.logged k).send q n)).symm with ⟨f', hp, hnet⟩ | ⟨r', hp, hnet⟩
  · rw [h] at hp
    cases hp
  · rw [h] at hp
    cases hp
    exact hnet

/-- A poll that leaves the request in flight changes nothing on the ledger. -/
theorem logged_poll_pending {f g : Nat × φ} (h : ((tr.logged k).poll f n).2 = .pending g) :
    g.1 = f.1 ∧ ((tr.logged k).poll f n).1.2 = n.2 := by
  rcases logged_poll_eq tr k (Prod.eta ((tr.logged k).poll f n)).symm with ⟨g', hp, hnet⟩ | ⟨r, hp, hnet⟩
  · rw [h] at hp
    cases hp
    exact ⟨rfl, hnet⟩
  · rw [h] at hp
    cases hp

/-- A poll that brings the reply puts it down at the place of its request. -/
theorem logged_poll_ready {f : Nat × φ} {r : Reply} (h : ((tr.logged k).poll f n).2 = .ready r) :
    ((tr.logged k).poll f n).1.2 = n.2.reply f.1 r := by
  rcases logged_poll_eq tr k (Prod.eta ((tr.logged k).poll f n)).symm with ⟨g, hp, hnet⟩ | ⟨r', hp, hnet⟩
  · rw [h] at hp
    cases hp
  · rw [h] at hp
    cases hp
    exact hnet

end Logged

/-! ## Flights and events -/

/-- The request a task has in flight: none, its caller's request, or a renewal call; each by
the place of its entry in the ledger. -/
inductive Hold where
  | none
  | user (entry : Nat)
  | renewal (entry : Nat)
  deriving DecidableEq

/-- The flight of a renewal under way: a leader's renewal call. -/
def Renewal.hold : Renewal (Nat × φ) → Hold
  | .following _ => .none
  | .leading f => .renewal f.1

/-- The flight of a request under way. -/
def Exchange.hold (ex : Exchange (Nat × φ)) : Hold :=
  match ex.stage with
  | .first f => .user f.1
  | .renewing r => r.hold
  | .replay f => .user f.1

/-- The flight of the work of a task. -/
def Work.hold : Work (Nat × φ) → Hold
  | .exchange ex => ex.hold
  | .renewal r => r.hold

/-- The flight of a task; a task that has ended holds none. -/
def Task.hold : Task (Nat × φ) → Hold
  | .running w => w.hold
  | _ => .none

/-- A task whose caller's request, if one is under way, goes to a path other than `path`. -/
def Task.Avoids (path : String) : Task φ → Prop
  | .running (.exchange ex) => ex.sending.request.target ≠ path
  | _ => True

/-- One thing a step of task `k` does to the ledger, the store and the flight of the task,
in a step that began with the coordinator `co`. -/
inductive Event (e : Endpoints) (k : Nat) (co : Coordinator) :
    Ledger × Store × Hold → Ledger × Store × Hold → Prop
  /-- The caller's request is sent. -/
  | send {l : Ledger} {s : Store} (q : Http.Request) : q.target ≠ e.refresh →
      Event e k co (l, s, .none) (l.send k q, s, .user l.sent.length)
  /-- The caller's request is answered. -/
  | reply {l : Ledger} {s : Store} {i : Nat} (r : Reply) :
      Event e k co (l, s, .user i) (l.reply i r, s, .none)
  /-- A leader of a wave that began in this step sends the stored refresh token. -/
  | renew {l : Ledger} {s : Store} (t : RefreshToken) : co.refreshing = false →
      s.refreshToken = .ok (some t) →
      Event e k co (l, s, .none) (l.send k (e.refreshRequest t), s, .renewal l.sent.length)
  /-- The renewal call is answered, and the wave settles the store on the reply. -/
  | renewed {l : Ledger} {s s' : Store} {i : Nat} (r : Reply) : SettledBy r s s' →
      Event e k co (l, s, .renewal i) (l.reply i r, s', .none)
  /-- A leader of a wave that began in this step has no refresh token to send. -/
  | fail {l : Ledger} {s : Store} : co.refreshing = false →
      Event e k co (l, s, .none) (l, s.clear.1, .none)

/-- A step of task `k` from the client `c`, whose task held `h`, to the client `c'` and the
task `t'`: a run of events, with the endpoints kept and the caller's request off the refresh
path. -/
structure Logs (k : Nat) (co : Coordinator) (c : Client (ν × Ledger)) (h : Hold)
    (c' : Client (ν × Ledger)) (t' : Task (Nat × φ)) : Prop where
  endpoints : c'.endpoints = c.endpoints
  events : ReflTransGen (Event c.endpoints k co) (c.net.2, c.store, h) (c'.net.2, c'.store, t'.hold)
  avoids : t'.Avoids c.endpoints.refresh

variable {k : Nat} {co : Coordinator} {c c₁ c' : Client (ν × Ledger)} {h h₁ : Hold}
  {t' : Task (Nat × φ)}

/-- Events before a step that logs are part of the step. -/
theorem Logs.head (hl : Logs k co c₁ h₁ c' t') (hend : c₁.endpoints = c.endpoints)
    (hev : ReflTransGen (Event c.endpoints k co) (c.net.2, c.store, h) (c₁.net.2, c₁.store, h₁)) :
    Logs k co c h c' t' := by
  obtain ⟨hend', hev', havoid⟩ := hl
  rw [hend] at hev' havoid
  exact ⟨hend'.trans hend, hev.trans hev', havoid⟩

/-- A step that leaves the ledger, the store and the flight as they were logs nothing. -/
theorem Logs.quiet (hend : c'.endpoints = c.endpoints) (hnet : c'.net.2 = c.net.2)
    (hstore : c'.store = c.store) (hold : t'.hold = h) (havoid : t'.Avoids c.endpoints.refresh) :
    Logs k co c h c' t' := by
  refine ⟨hend, ?_, havoid⟩
  rw [hnet, hstore, hold]

/-- A step from a client that differs only in its coordinator logs the same. -/
theorem Logs.of_coordinator {c₁ : Client (ν × Ledger)} (hl : Logs k co c₁ h c' t')
    (hend : c₁.endpoints = c.endpoints) (hnet : c₁.net = c.net) (hstore : c₁.store = c.store) :
    Logs k co c h c' t' := by
  obtain ⟨hend', hev, havoid⟩ := hl
  rw [hend, hnet, hstore] at hev
  rw [hend] at havoid
  exact ⟨hend'.trans hend, hev, havoid⟩


/-! ## Every function of a step logs -/

@[simp] theorem withBearer_target (q : Http.Request) (t : AccessToken) :
    (q.withBearer t).target = q.target := rfl

@[simp] theorem retried_target (q : Http.Request) : q.retried.target = q.target := rfl

@[simp] theorem conclude_net (reply : Reply) (c : Client ν) : (conclude reply c).1.net = c.net := by
  rw [conclude_fst]

@[simp] theorem conclude_endpoints (reply : Reply) (c : Client ν) :
    (conclude reply c).1.endpoints = c.endpoints := by
  rw [conclude_fst]

variable (tr : Transport ν φ) (k : Nat)

/-- Sending the replay: the caller's request goes once more, with its reply if it came. -/
theorem replay_logs (sd : Sending) (fresh : AccessToken) (c : Client (ν × Ledger))
    (hsd : sd.request.target ≠ c.endpoints.refresh) :
    Logs k co c .none (replay (tr.logged k) sd fresh c).1
      (sendStep (replay (tr.logged k) sd fresh c)).2 := by
  unfold replay
  split
  next _ net sent heq =>
    have hq : (sd.request.retried.withBearer fresh).target ≠ c.endpoints.refresh := hsd
    rcases logged_send_eq tr k heq with ⟨f, rfl, hnet⟩ | ⟨r, rfl, hnet⟩
    · refine ⟨rfl, ?_, hsd⟩
      show ReflTransGen _ _ (net.2, c.store, Hold.user c.net.2.sent.length)
      rw [hnet]
      exact .single (.send _ hq)
    · refine ⟨rfl, ?_, trivial⟩
      show ReflTransGen _ _ (net.2, c.store, Hold.none)
      rw [hnet]
      exact .tail (.single (.send _ hq)) (.reply r)

/-- A request waiting on a renewal logs what the renewal logs, and the replay after it. -/
theorem renewed_logs (sd : Sending) {c : Client (ν × Ledger)} {h : Hold}
    {x : Client (ν × Ledger) × Poll (Renewal (Nat × φ)) Renewed}
    (hsd : sd.request.target ≠ c.endpoints.refresh) (hx : Logs k co c h x.1 (renewStep x).2) :
    Logs k co c h (renewed (tr.logged k) sd x).1 (sendStep (renewed (tr.logged k) sd x)).2 := by
  rcases x with ⟨c', r | e | fresh⟩
  · exact ⟨hx.endpoints, hx.events, hsd⟩
  · exact ⟨hx.endpoints, hx.events, trivial⟩
  · exact (replay_logs tr k sd fresh c' (hx.endpoints ▸ hsd)).head hx.endpoints hx.events

/-- A leader sends the stored refresh token, or clears the store when it has none to send;
a reply that comes at once settles the store. -/
theorem lead_logs (hco : co.refreshing = false) (c : Client (ν × Ledger)) :
    Logs k co c .none (lead (tr.logged k) c).1 (renewStep (lead (tr.logged k) c)).2 := by
  unfold lead
  split
  · exact ⟨rfl, .single (.fail hco), trivial⟩
  · exact ⟨rfl, .single (.fail hco), trivial⟩
  · next token htoken =>
    split
    next _ net sent heq =>
      rcases logged_send_eq tr k heq with ⟨f, rfl, hnet⟩ | ⟨r, rfl, hnet⟩
      · refine ⟨rfl, ?_, trivial⟩
        show ReflTransGen _ _ (net.2, c.store, Hold.renewal c.net.2.sent.length)
        rw [hnet]
        exact .single (.renew token hco htoken)
      · have hsettled := conclude_settledBy r { c with net }
        refine ⟨by simp [finishWave], ?_, trivial⟩
        show ReflTransGen _ _ (((conclude r { c with net }).1.settle (conclude r { c with net }).2).net.2,
          ((conclude r { c with net }).1.settle (conclude r { c with net }).2).store, Hold.none)
        rw [settle_net, conclude_net]
        dsimp only
        rw [hnet]
        exact .tail (.single (.renew token hco htoken)) (.renewed r hsettled)

/-- Obtaining a fresh token: a follower or a caller that takes the stored token logs nothing,
and a leader logs what its renewal logs. -/
theorem ensureFresh_logs (rejected : Option AccessToken) (c : Client (ν × Ledger)) :
    Logs k c.coordinator c .none (ensureFresh (tr.logged k) rejected c).1
      (renewStep (ensureFresh (tr.logged k) rejected c)).2 := by
  cases hco : c.coordinator.refreshing with
  | true =>
    simp only [ensureFresh, @join_of_refreshing (ν × Ledger) c rejected hco]
    exact Logs.quiet rfl rfl rfl rfl trivial
  | false =>
    rcases @join_of_idle (ν × Ledger) c rejected hco with hj | ⟨r, hj, ⟨e, rfl⟩ | ⟨token, rfl⟩⟩
    · simp only [ensureFresh, hj]
      exact (lead_logs tr k hco _).of_coordinator rfl rfl rfl
    · simp only [ensureFresh, hj]
      exact Logs.quiet rfl rfl rfl rfl trivial
    · simp only [ensureFresh, hj]
      exact Logs.quiet rfl rfl rfl rfl trivial

/-- Polling a renewal: a follower logs nothing, and a leader's renewal call is answered and
settles the store, or stays in flight. -/
theorem Renewal.poll_logs (r : Renewal (Nat × φ)) (c : Client (ν × Ledger)) :
    Logs k c.coordinator c r.hold (r.poll (tr.logged k) c).1 (renewStep (r.poll (tr.logged k) c)).2 := by
  unfold Renewal.poll
  split
  next ticket =>
    split
    next => exact Logs.quiet rfl rfl rfl rfl trivial
    next => exact Logs.quiet rfl rfl rfl rfl trivial
  next f =>
    split
    next _ net polled heq =>
      rcases logged_poll_eq tr k heq with ⟨g, rfl, hnet⟩ | ⟨r, rfl, hnet⟩
      · exact Logs.quiet rfl hnet rfl rfl trivial
      · have hsettled := conclude_settledBy r { c with net }
        refine ⟨by simp [finishWave], ?_, trivial⟩
        show ReflTransGen _ (c.net.2, c.store, Hold.renewal f.1)
          (((conclude r { c with net }).1.settle (conclude r { c with net }).2).net.2,
          ((conclude r { c with net }).1.settle (conclude r { c with net }).2).store, Hold.none)
        rw [settle_net, conclude_net]
        dsimp only
        rw [hnet]
        exact .single (.renewed r hsettled)

/-- The reply to a first attempt: a 401 that may renew logs the renewal and the replay. -/
theorem answered_logs (sd : Sending) (reply : Reply) (c : Client (ν × Ledger))
    (hco : c.coordinator = co) (hsd : sd.request.target ≠ c.endpoints.refresh) :
    Logs k co c .none (answered (tr.logged k) sd reply c).1
      (sendStep (answered (tr.logged k) sd reply c)).2 := by
  subst hco
  unfold answered
  split
  next => exact Logs.quiet rfl rfl rfl rfl trivial
  next r =>
    split
    next => exact renewed_logs tr k sd hsd (ensureFresh_logs tr k sd.token c)
    next => exact Logs.quiet rfl rfl rfl rfl trivial

/-- The first step of a request: it is sent, and answered if its reply came at once. -/
theorem startRequest_logs (request : Http.Request) (renews : Bool) (c : Client (ν × Ledger))
    (hq : request.target ≠ c.endpoints.refresh) :
    Logs k c.coordinator c .none (Client.start (tr.logged k) request renews c).1
      (sendStep (Client.start (tr.logged k) request renews c)).2 := by
  unfold Client.start
  generalize (if renews then c.store.accessToken else .ok none :
    Except Failure (Option AccessToken)) = token
  cases token with
  | error e => exact Logs.quiet rfl rfl rfl rfl trivial
  | ok token =>
    dsimp only
    -- the request goes with the stored token as its bearer, if there is one
    split
    next f heq =>
      obtain ⟨hf, hnet⟩ := logged_send_pending tr k heq
      refine ⟨rfl, ?_, hq⟩
      simp only [sendStep, Task.hold, Work.hold, Exchange.hold, hf, hnet]
      exact .single (.send _ (by split <;> simpa using hq))
    next r heq =>
      have hnet := logged_send_ready tr k heq
      refine Logs.head (answered_logs tr k _ r _ (by rfl) (by exact hq)) ?_ ?_
      · rfl
      · simp only [hnet]
        exact .tail (.single (.send _ (by split <;> simpa using hq))) (.reply r)

/-- Polling a request under way: its reply is put down when it comes, and a first attempt
refused with a 401 goes on to renew. -/
theorem Exchange.poll_logs (ex : Exchange (Nat × φ)) (c : Client (ν × Ledger))
    (hsd : ex.sending.request.target ≠ c.endpoints.refresh) :
    Logs k c.coordinator c ex.hold (ex.poll (tr.logged k) c).1
      (sendStep (ex.poll (tr.logged k) c)).2 := by
  rcases ex with ⟨sd, f | r | f⟩
  · unfold Exchange.poll
    dsimp only
    split
    next g heq =>
      obtain ⟨hg, hnet⟩ := logged_poll_pending tr k heq
      exact Logs.quiet rfl hnet rfl (by simp [sendStep, Task.hold, Work.hold, Exchange.hold, hg]) hsd
    next r heq =>
      have hnet := logged_poll_ready tr k heq
      refine Logs.head (answered_logs tr k _ r _ (by rfl) (by exact hsd)) ?_ ?_
      · rfl
      · simp only [hnet]
        exact .single (.reply r)
  · exact renewed_logs tr k sd hsd (Renewal.poll_logs tr k r c)
  · unfold Exchange.poll
    dsimp only
    split
    next g heq =>
      obtain ⟨hg, hnet⟩ := logged_poll_pending tr k heq
      exact Logs.quiet rfl hnet rfl (by simp [sendStep, Task.hold, Work.hold, Exchange.hold, hg]) hsd
    next r heq =>
      have hnet := logged_poll_ready tr k heq
      refine ⟨rfl, ?_, trivial⟩
      simp only [sendStep, Task.hold, hnet]
      exact .single (.reply r)

/-- Polling a task logs. -/
theorem Work.poll_logs (w : Work (Nat × φ)) (c : Client (ν × Ledger))
    (havoid : (Task.running w).Avoids c.endpoints.refresh) :
    Logs k c.coordinator c w.hold (w.poll (tr.logged k) c).1 (w.poll (tr.logged k) c).2 := by
  rcases w with ex | r
  · simpa only [Work.poll, sendStep_fst, Work.hold] using Exchange.poll_logs tr k ex c havoid
  · simpa only [Work.poll, renewStep_fst, Work.hold] using Renewal.poll_logs tr k r c

/-- A call whose request, if it sends one of its own, goes to a path other than `path`. -/
def Call.Avoids (path : String) : Call → Prop
  | .send request _ => request.target ≠ path
  | _ => True

/-- Starting a task logs. -/
theorem Call.start_logs (call : Call) (c : Client (ν × Ledger))
    (havoid : call.Avoids c.endpoints.refresh) :
    Logs k c.coordinator c .none (call.start (tr.logged k) c).1 (call.start (tr.logged k) c).2 := by
  cases call with
  | send request renews =>
    simpa only [Call.start, sendStep_fst] using startRequest_logs tr k request renews c havoid
  | ensureFresh rejected =>
    simpa only [Call.start, renewStep_fst] using ensureFresh_logs tr k rejected c
  | renewNow =>
    simp only [Call.start]
    split
    next => exact Logs.quiet rfl rfl rfl rfl trivial
    next current _ => simpa only [renewStep_fst] using ensureFresh_logs tr k current c

/-- Leaving a task where it waits changes neither the ledger nor the store. -/
theorem Work.drop_same (w : Work (Nat × φ)) (c : Client (ν × Ledger)) :
    (w.drop c).endpoints = c.endpoints ∧ (w.drop c).net = c.net ∧ (w.drop c).store = c.store := by
  rcases w with ⟨sd, f | r | f⟩ | r
  · exact ⟨rfl, rfl, rfl⟩
  · rcases r with ticket | f <;> exact ⟨rfl, rfl, rfl⟩
  · exact ⟨rfl, rfl, rfl⟩
  · rcases r with ticket | f <;> exact ⟨rfl, rfl, rfl⟩

end BearerSession.Client
