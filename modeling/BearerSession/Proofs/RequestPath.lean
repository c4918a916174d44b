import BearerSession.Proofs.RefreshToken

/-!
# The path of a request

A request sent with renewal on goes through the client along a short path. It is sent with the
stored access token as its bearer. Its reply is its answer, unless it is a 401, which sends the
request to renew: it follows the running wave, takes a token that a past wave stored, or leads
a new wave, which sends the renewal call and ends on its reply. With a fresh token the request
goes once more, and the reply to that replay is its answer.

`Point` names the places of that path and `Advance` the moves between them, each with what it
does to the client: the ledger, the store and the coordinator. Every step of a task making a
request, its first one as every later one, is a run of moves from the point the task had
reached to the point it reaches (`Call.start_path`, `Exchange.poll_path`), when the transport
answers as the backend allows (`Transport.Serves`). Invariants of runs of requests are then
proved move by move.
-/

namespace BearerSession

/-- A request with the bearer `tok`, or as it is when there is none. -/
def Http.Request.bearing (q : Http.Request) : Option AccessToken → Http.Request
  | some t => q.withBearer t
  | none => q

namespace Client

open Relation

variable {ν φ : Type}

/-! ## Transports that answer -/

/-- A transport each of whose replies `answers` allows for its request, and that answers every
request after finitely many polls: a request in flight knows its request, and a poll that leaves
it in flight brings it closer to its reply. -/
structure Transport.Serves (tr : Transport ν φ) (answers : Http.Request → Reply → Prop) where
  request : φ → Http.Request
  polls : φ → Nat
  send_ready : ∀ q n r, (tr.send q n).2 = .ready r → answers q r
  send_pending : ∀ q n f, (tr.send q n).2 = .pending f → request f = q
  poll_ready : ∀ f n r, (tr.poll f n).2 = .ready r → answers (request f) r
  poll_pending : ∀ f n g, (tr.poll f n).2 = .pending g → request g = request f ∧ polls g < polls f

namespace Transport.Serves

variable {tr : Transport ν φ} {A : Http.Request → Reply → Prop} (k : Nat) {q : Http.Request}
  {n : ν × Ledger} {r : Reply}

theorem logged_send_ready (sv : tr.Serves A) (h : ((tr.logged k).send q n).2 = .ready r) : A q r := by
  unfold Transport.logged at h
  dsimp only at h
  split at h
  · cases h
  · next heq =>
    cases h
    exact sv.send_ready q n.1 _ (by rw [heq])

theorem logged_send_pending (sv : tr.Serves A) {f : Nat × φ}
    (h : ((tr.logged k).send q n).2 = .pending f) : sv.request f.2 = q := by
  unfold Transport.logged at h
  dsimp only at h
  split at h
  · next heq =>
    cases h
    exact sv.send_pending q n.1 _ (by rw [heq])
  · cases h

theorem logged_poll_ready (sv : tr.Serves A) {f : Nat × φ} (h : ((tr.logged k).poll f n).2 = .ready r) :
    A (sv.request f.2) r := by
  unfold Transport.logged at h
  dsimp only at h
  split at h
  · cases h
  · next heq =>
    cases h
    exact sv.poll_ready f.2 n.1 _ (by rw [heq])

theorem logged_poll_pending (sv : tr.Serves A) {f g : Nat × φ}
    (h : ((tr.logged k).poll f n).2 = .pending g) :
    sv.request g.2 = sv.request f.2 ∧ sv.polls g.2 < sv.polls f.2 := by
  unfold Transport.logged at h
  dsimp only at h
  split at h
  · next heq =>
    cases h
    exact sv.poll_pending f.2 n.1 _ (by rw [heq])
  · cases h

end Transport.Serves

/-! ## The points of the path -/

/-- The places on the path of a request: not sent yet; its first attempt in flight at a place of
the ledger, with the token it carried; refused, with that token; following a wave with a ticket;
elected to lead a wave; leading it with the renewal call in flight; holding a fresh token; its
replay in flight; answered. -/
inductive Point where
  | start
  | first (token : Option AccessToken) (entry : Nat)
  | refused (token : Option AccessToken)
  | following (ticket : Nat)
  | electing
  | leading (entry : Nat)
  | fresh (token : AccessToken)
  | replay (entry : Nat)
  | done (reply : Reply)

namespace Point

/-- Where the reply to a first attempt leads: a 401 to renewing, anything else to the answer. -/
def ofFirst (token : Option AccessToken) : Reply → Point
  | .error err => .done (.error err)
  | .ok resp => if resp.isUnauthorized then .refused token else .done resp.intoResult

/-- Where a renewal under way, or ended, leaves a request. -/
def ofRenewal : Poll (Renewal (Nat × φ)) Renewed → Point
  | .pending (.following t) => .following t
  | .pending (.leading f) => .leading f.1
  | .ready (.ok t) => .fresh t
  | .ready (.error err) => .done (.error err)

/-- Where the outcome of a wave leaves its leader and its followers. -/
def ofOutcome : RenewalOutcome → Point
  | .ok t => .fresh t
  | .error err => .done (.error err.toFailure)

theorem ofRenewal_outcome (o : RenewalOutcome) :
    @ofRenewal φ (.ready (o.mapError RenewalFailure.toFailure)) = ofOutcome o := by
  cases o <;> rfl

end Point

/-- The point a request under way has reached. -/
def Exchange.point (ex : Exchange (Nat × φ)) : Point :=
  match ex.stage with
  | .first f => .first ex.sending.token f.1
  | .renewing r => .ofRenewal (.pending r)
  | .replay f => .replay f.1

/-- The point a task has reached; a renewal stands where it leaves the request that waits on it. -/
def Task.point : Task (Nat × φ) → Point
  | .running (.exchange ex) => ex.point
  | .running (.renewal r) => .ofRenewal (.pending r)
  | .replied reply => .done reply
  | .renewed t => @Point.ofRenewal φ (.ready t)
  | .dropped => .start

/-- The request a task has in flight, if any: a first attempt, a renewal call or a replay. -/
def Task.flight? : Task (Nat × φ) → Option (Nat × φ)
  | .running (.exchange ⟨_, .first f⟩) => some f
  | .running (.exchange ⟨_, .renewing (.leading f)⟩) => some f
  | .running (.exchange ⟨_, .replay f⟩) => some f
  | .running (.renewal (.leading f)) => some f
  | _ => none

/-- The flight `f` of task `k` is of the request that the ledger has at its place. -/
def Ledger.Flies (l : Ledger) (request : φ → Http.Request) (k : Nat) (f : Nat × φ) : Prop :=
  ∃ q, l.sent[f.1]? = some (k, q) ∧ request f.2 = q

/-- The flight of a task, if any, is of the request at its place. -/
def Task.Flies (request : φ → Http.Request) (l : Ledger) (k : Nat) (t : Task (Nat × φ)) : Prop :=
  ∀ f, t.flight? = some f → l.Flies request k f

/-! ## Counting requests -/

namespace Ledger

variable {l : Ledger} {k k' i : Nat} {q : Http.Request} {r : Reply} {path : String}

/-- The requests sent to `path`, in order. -/
def callsTo (l : Ledger) (path : String) : List Http.Request :=
  (l.sent.map Prod.snd).filter (·.target == path)

/-- How many requests task `k` sent to paths other than `path`. -/
def sentBy (l : Ledger) (k : Nat) (path : String) : Nat :=
  (l.sent.filter fun x => x.1 == k && x.2.target != path).length

/-- Task `k` sent `q` at place `i`, and it has had no reply. -/
def Out (l : Ledger) (k : Nat) (q : Http.Request) (i : Nat) : Prop :=
  l.sent[i]? = some (k, q) ∧ ¬ l.Answered i

@[simp] theorem getElem?_send_length : (l.send k q).sent[l.sent.length]? = some (k, q) := by
  simp [send]

@[simp] theorem callsTo_reply : (l.reply i r).callsTo path = l.callsTo path := rfl

@[simp] theorem sentBy_reply : (l.reply i r).sentBy k path = l.sentBy k path := rfl

theorem callsTo_send_of_ne (h : q.target ≠ path) : (l.send k q).callsTo path = l.callsTo path := by
  simp [callsTo, send, h]

theorem callsTo_send_of_eq (h : q.target = path) :
    (l.send k q).callsTo path = l.callsTo path ++ [q] := by
  simp [callsTo, send, h]

theorem sentBy_send_self (h : q.target ≠ path) : (l.send k q).sentBy k path = l.sentBy k path + 1 := by
  simp [sentBy, send, h]

theorem sentBy_send_of_eq (h : q.target = path) : (l.send k' q).sentBy k path = l.sentBy k path := by
  simp [sentBy, send, h]

theorem sentBy_send_other (h : k' ≠ k) : (l.send k' q).sentBy k path = l.sentBy k path := by
  simp [sentBy, send, h]

/-- A request on the ledger that went to `path` is among the calls to it. -/
theorem mem_callsTo (h : l.sent[i]? = some (k, q)) (hq : q.target = path) : q ∈ l.callsTo path := by
  simp only [callsTo, List.mem_filter, List.mem_map, beq_iff_eq]
  exact ⟨⟨(k, q), List.mem_of_getElem? h, rfl⟩, hq⟩

/-- Two entries that went to `path` make two calls to it. -/
theorem two_le_length_callsTo {j : Nat} {x y : Nat × Http.Request} (hij : i < j)
    (hi : l.sent[i]? = some x) (hj : l.sent[j]? = some y) (hx : x.2.target = path)
    (hy : y.2.target = path) : 2 ≤ (l.callsTo path).length := by
  have hlt : i < l.sent.length := (List.getElem?_eq_some_iff.1 hi).1
  -- the ledger is what came before `x`, then `x`, then the rest, where `y` is
  have hsplit : l.sent = l.sent.take i ++ x :: l.sent.drop (i + 1) := by
    conv_lhs => rw [← List.take_append_drop i l.sent]
    rw [List.drop_eq_getElem_cons hlt, (List.getElem?_eq_some_iff.1 hi).2]
  have hy' : y ∈ l.sent.drop (i + 1) := by
    have hget : (l.sent.drop (i + 1))[j - (i + 1)]? = some y := by
      rw [List.getElem?_drop, show i + 1 + (j - (i + 1)) = j by omega]
      exact hj
    exact List.mem_of_getElem? hget
  have hrest : 0 < (((l.sent.drop (i + 1)).map Prod.snd).filter (·.target == path)).length :=
    List.length_pos_of_mem (List.mem_filter.2 ⟨List.mem_map_of_mem hy', by simp [hy]⟩)
  unfold callsTo
  rw [hsplit]
  simp only [List.map_append, List.map_cons, List.filter_append, List.filter_cons, hx, beq_self_eq_true,
    if_true, List.length_append, List.length_cons]
  omega

/-- When one call went to `path`, every entry that went there is at one place. -/
theorem eq_of_callsTo_singleton {q₀ : Http.Request} (h : l.callsTo path = [q₀]) {j : Nat}
    {x y : Nat × Http.Request} (hi : l.sent[i]? = some x) (hj : l.sent[j]? = some y)
    (hx : x.2.target = path) (hy : y.2.target = path) : i = j := by
  have hlen : (l.callsTo path).length = 1 := by rw [h]; rfl
  rcases Nat.lt_trichotomy i j with hij | hij | hij
  · have := two_le_length_callsTo hij hi hj hx hy
    omega
  · exact hij
  · have := two_le_length_callsTo hij hj hi hy hx
    omega

end Ledger

/-! ## Moves -/

/-- One move along the path of task `k` making the request `q` with renewal on, over a backend
whose replies `answers` allows. -/
inductive Advance (answers : Http.Request → Reply → Prop) (q : Http.Request) (k : Nat) :
    Client (ν × Ledger) × Point → Client (ν × Ledger) × Point → Prop
  /-- The store cannot be read, and the request fails unsent. -/
  | unread {c : Client (ν × Ledger)} {err : Failure} : c.store.accessToken = .error err →
      Advance answers q k (c, .start) (c, .done (.error err))
  /-- The transport moves while the request waits, and nothing else does. -/
  | wait {c : Client (ν × Ledger)} {x : Point} (n : ν) :
      Advance answers q k (c, x) ({ c with net := (n, c.net.2) }, x)
  /-- The first attempt goes, with the stored access token, if any, as its bearer. -/
  | send {c : Client (ν × Ledger)} {tok : Option AccessToken} (n : ν) :
      c.store.accessToken = .ok tok →
      Advance answers q k (c, .start)
        ({ c with net := (n, c.net.2.send k (q.bearing tok)) }, .first tok c.net.2.sent.length)
  /-- The first attempt is answered. -/
  | answer {c : Client (ν × Ledger)} {tok : Option AccessToken} {i : Nat} {q' : Http.Request}
      (n : ν) (r : Reply) : c.net.2.sent[i]? = some (k, q') → answers q' r →
      Advance answers q k (c, .first tok i) ({ c with net := (n, c.net.2.reply i r) }, .ofFirst tok r)
  /-- Refused, the request follows the running wave with the next ticket. -/
  | follow {c : Client (ν × Ledger)} {tok : Option AccessToken} : c.coordinator.refreshing = true →
      Advance answers q k (c, .refused tok)
        ({ c with coordinator := c.coordinator.enqueue.1 }, .following c.coordinator.issued)
  /-- Refused with no wave running, the request cannot read the store. -/
  | joinUnread {c : Client (ν × Ledger)} {tok : Option AccessToken} {err : Failure} :
      c.coordinator.refreshing = false → c.store.accessToken = .error err →
      Advance answers q k (c, .refused tok) (c, .done (.error err))
  /-- Refused with no wave running, the request takes a stored token other than the refused one. -/
  | settled {c : Client (ν × Ledger)} {tok : Option AccessToken} {cur : AccessToken} :
      c.coordinator.refreshing = false → c.store.accessToken = .ok (some cur) → some cur ≠ tok →
      Advance answers q k (c, .refused tok) (c, .fresh cur)
  /-- Refused with no wave running, and with the refused token or none stored, the request
  leads a new wave. -/
  | elect {c : Client (ν × Ledger)} {tok : Option AccessToken} : c.coordinator.refreshing = false →
      (c.store.accessToken = .ok tok ∨ c.store.accessToken = .ok none) →
      Advance answers q k (c, .refused tok)
        ({ c with coordinator := { c.coordinator with refreshing := true } }, .electing)
  /-- The leader has no refresh token to send, or cannot read one: the wave ends at once on
  that failure. -/
  | unrenewable {c : Client (ν × Ledger)} {o : RenewalFailure} :
      (c.store.refreshToken = .ok none ∧ o = .noRefreshToken) ∨
        (∃ err : Failure, c.store.refreshToken = .error err ∧
          o = .refused (.noResponse ("could not read stored credentials: " ++ err.message))) →
      Advance answers q k (c, .electing) (c.settle (.error o), .done (.error o.toFailure))
  /-- The leader sends its renewal call with the stored refresh token. -/
  | renew {c : Client (ν × Ledger)} {t : RefreshToken} (n : ν) : c.store.refreshToken = .ok (some t) →
      Advance answers q k (c, .electing)
        ({ c with net := (n, c.net.2.send k (c.endpoints.refreshRequest t)) },
          .leading c.net.2.sent.length)
  /-- The renewal call is answered, and the wave ends on the outcome its reply gives. -/
  | conclude {c c₁ : Client (ν × Ledger)} {i : Nat} {q' : Http.Request} {o : RenewalOutcome}
      (n : ν) (r : Reply) : c.net.2.sent[i]? = some (k, q') → answers q' r →
      conclude r { c with net := (n, c.net.2.reply i r) } = (c₁, o) →
      Advance answers q k (c, .leading i) (c₁.settle o, .ofOutcome o)
  /-- A follower reads the outcome its ticket was sent. -/
  | receive {c : Client (ν × Ledger)} {t : Nat} {o : RenewalOutcome} :
      c.coordinator.outcome? t = some o → Advance answers q k (c, .following t) (c, .ofOutcome o)
  /-- With a fresh token the request goes once more, marked as a replay. -/
  | resend {c : Client (ν × Ledger)} {tok : AccessToken} (n : ν) :
      Advance answers q k (c, .fresh tok)
        ({ c with net := (n, c.net.2.send k (q.retried.withBearer tok)) }, .replay c.net.2.sent.length)
  /-- The replay is answered, and its answer is the request's. -/
  | reanswer {c : Client (ν × Ledger)} {i : Nat} {q' : Http.Request} (n : ν) (r : Reply) :
      c.net.2.sent[i]? = some (k, q') → answers q' r →
      Advance answers q k (c, .replay i)
        ({ c with net := (n, c.net.2.reply i r) }, .done (r.bind Http.Response.intoResult))

/-- A step of task `k` making the request `q`, from the client `c` at the point `x` to the
client `c'` and the task `t'`: a run of moves, after which the task's flight is of the request
at its place. -/
structure Path (answers : Http.Request → Reply → Prop) (request : φ → Http.Request) (q : Http.Request)
    (k : Nat) (c : Client (ν × Ledger)) (x : Point) (c' : Client (ν × Ledger)) (t' : Task (Nat × φ)) :
    Prop where
  moves : ReflTransGen (Advance answers q k) (c, x) (c', t'.point)
  flies : t'.Flies request c'.net.2 k

/-- Moves before a step are part of it. -/
theorem Path.head {A : Http.Request → Reply → Prop} {request : φ → Http.Request} {q : Http.Request}
    {k : Nat} {c c₁ c' : Client (ν × Ledger)} {x x₁ : Point} {t' : Task (Nat × φ)}
    (hp : Path A request q k c₁ x₁ c' t') (hmoves : ReflTransGen (Advance A q k) (c, x) (c₁, x₁)) :
    Path A request q k c x c' t' :=
  ⟨hmoves.trans hp.moves, hp.flies⟩

section Steps

variable {tr : Transport ν φ} {A : Http.Request → Reply → Prop} (sv : tr.Serves A) (k : Nat)
  {q : Http.Request} {c c₁ c' : Client (ν × Ledger)} {x x₁ : Point} {t' : Task (Nat × φ)}

/-- Sending the replay: the request goes once more, and is answered if the reply came at once. -/
theorem replay_path (s : Sending) (fresh : AccessToken) (c : Client (ν × Ledger)) :
    Path A sv.request s.request k c (.fresh fresh) (replay (tr.logged k) s fresh c).1
      (sendStep (replay (tr.logged k) s fresh c)).2 := by
  unfold replay
  split
  next _ net sent heq =>
    rcases logged_send_eq tr k heq with ⟨f, rfl, hnet⟩ | ⟨r, rfl, hnet⟩
    · have hreq := sv.logged_send_pending k (congrArg Prod.snd heq)
      have hnet' : net = (net.1, c.net.2.send k (s.request.retried.withBearer fresh)) := by
        rw [← hnet]
      refine ⟨?_, ?_⟩
      · show ReflTransGen _ _ ({ c with net }, Point.replay c.net.2.sent.length)
        rw [hnet']
        exact .single (.resend net.1)
      · intro g hg
        simp only [sendStep, Task.flight?, Option.some.injEq] at hg
        subst hg
        exact ⟨_, by simp [hnet], hreq⟩
    · have hans := sv.logged_send_ready k (congrArg Prod.snd heq)
      have hnet' : net = (net.1, (c.net.2.send k (s.request.retried.withBearer fresh)).reply
          c.net.2.sent.length r) := by
        rw [← hnet]
      refine ⟨?_, fun g hg => by simp [sendStep, Task.flight?] at hg⟩
      show ReflTransGen _ _ ({ c with net }, Point.done (r.bind Http.Response.intoResult))
      rw [hnet']
      exact .tail (.single (.resend net.1)) (.reanswer net.1 r (by simp) hans)

/-- A request waiting on a renewal goes as the renewal goes, and on to its replay. -/
theorem renewed_path (s : Sending) {x : Client (ν × Ledger) × Poll (Renewal (Nat × φ)) Renewed}
    (hx : Path A sv.request s.request k c p x.1 (renewStep x).2) :
    Path A sv.request s.request k c p (renewed (tr.logged k) s x).1
      (sendStep (renewed (tr.logged k) s x)).2 := by
  rcases x with ⟨c', (ticket | f) | err | fresh⟩
  · exact ⟨hx.moves, hx.flies⟩
  · exact ⟨hx.moves, hx.flies⟩
  · exact ⟨hx.moves, hx.flies⟩
  · exact (replay_path sv k s fresh c').head hx.moves

/-- A leader sends the stored refresh token, or ends its wave at once when it has none to
send; a reply that comes at once ends the wave. -/
theorem lead_path (c : Client (ν × Ledger)) :
    Path A sv.request q k c .electing (lead (tr.logged k) c).1 (renewStep (lead (tr.logged k) c)).2 := by
  unfold lead
  split
  · next hnone =>
    exact ⟨.single (.unrenewable (.inl ⟨hnone, rfl⟩)),
      fun g hg => by simp [finishWave, renewStep, Task.flight?] at hg⟩
  · next err herr =>
    exact ⟨.single (.unrenewable (.inr ⟨err, herr, rfl⟩)),
      fun g hg => by simp [finishWave, renewStep, Task.flight?] at hg⟩
  · next token htoken =>
    split
    next _ net sent heq =>
      rcases logged_send_eq tr k heq with ⟨f, rfl, hnet⟩ | ⟨r, rfl, hnet⟩
      · have hreq := sv.logged_send_pending k (congrArg Prod.snd heq)
        have hnet' : net = (net.1, c.net.2.send k (c.endpoints.refreshRequest token)) := by
          rw [← hnet]
        refine ⟨?_, ?_⟩
        · show ReflTransGen _ _ ({ c with net }, Point.leading c.net.2.sent.length)
          rw [hnet']
          exact .single (.renew net.1 htoken)
        · intro g hg
          simp only [renewStep, Task.flight?, Option.some.injEq] at hg
          subst hg
          exact ⟨_, by simp [hnet], hreq⟩
      · have hans := sv.logged_send_ready k (congrArg Prod.snd heq)
        have hnet' : net = (net.1, (c.net.2.send k (c.endpoints.refreshRequest token)).reply
            c.net.2.sent.length r) := by
          rw [← hnet]
        dsimp only
        rcases hc : conclude r { c with net } with ⟨c₁, o⟩
        refine ⟨?_, fun g hg => by simp [finishWave, renewStep, Task.flight?] at hg⟩
        simp only [finishWave, renewStep, Task.point, Point.ofRenewal_outcome]
        rw [hnet'] at hc
        exact .tail (.single (.renew net.1 htoken)) (.conclude net.1 r (by simp) hans hc)

/-- Obtaining a fresh token: a caller follows the running wave, takes the stored token, fails to
read the store, or leads a new wave. -/
theorem ensureFresh_path (rejected : Option AccessToken) (c : Client (ν × Ledger)) :
    Path A sv.request q k c (.refused rejected) (ensureFresh (tr.logged k) rejected c).1
      (renewStep (ensureFresh (tr.logged k) rejected c)).2 := by
  cases hco : c.coordinator.refreshing with
  | true =>
    simp only [ensureFresh, @join_of_refreshing (ν × Ledger) c rejected hco]
    exact ⟨.single (.follow hco), fun g hg => by simp [renewStep, Task.flight?] at hg⟩
  | false =>
    rcases hread : c.store.accessToken with err | _ | cur
    · have hj : c.join rejected = (c, .error err) := join_eq_error_iff.2 ⟨hco, hread, rfl⟩
      simp only [ensureFresh, hj]
      exact ⟨.single (.joinUnread hco hread), fun g hg => by simp [renewStep, Task.flight?] at hg⟩
    · have hj : c.join rejected =
          ({ c with coordinator := { c.coordinator with refreshing := true } }, .ok .leader) := by
        simp [Client.join, hco, hread]
      simp only [ensureFresh, hj]
      exact (lead_path sv k _).head (.single (.elect hco (.inr hread)))
    · by_cases hsame : some cur = rejected
      · subst hsame
        have hj : c.join (some cur) =
            ({ c with coordinator := { c.coordinator with refreshing := true } }, .ok .leader) := by
          simp [Client.join, hco, hread]
        simp only [ensureFresh, hj]
        exact (lead_path sv k _).head (.single (.elect hco (.inl hread)))
      · have hj : c.join rejected = (c, .ok (.settled cur)) := by
          simp [Client.join, hco, hread, hsame]
        simp only [ensureFresh, hj]
        exact ⟨.single (.settled hco hread hsame), fun g hg => by simp [renewStep, Task.flight?] at hg⟩

/-- A poll that leaves a request in flight moves only the transport. -/
theorem wait_path (pt : Nat → Point) (f g : Nat × φ) (hf : c.net.2.Flies sv.request k f)
    (heq : ((tr.logged k).poll f c.net).2 = .pending g) {t' : Task (Nat × φ)}
    (hpoint : t'.point = pt g.1) (hflight : t'.flight? = some g) :
    Path A sv.request q k c (pt f.1) { c with net := ((tr.logged k).poll f c.net).1 } t' := by
  obtain ⟨hg, hnet⟩ := logged_poll_pending tr k heq
  have hgreq := (sv.logged_poll_pending k heq).1
  obtain ⟨q', hq', hreq⟩ := hf
  refine ⟨?_, ?_⟩
  · have hstep := @Advance.wait ν A q k c (pt f.1) ((tr.logged k).poll f c.net).1.1
    rw [← hnet] at hstep
    rw [hpoint, hg]
    exact .single hstep
  · intro g' hg'
    rw [hflight, Option.some.injEq] at hg'
    subst hg'
    exact ⟨q', by rw [hnet, hg]; exact hq', hgreq.trans hreq⟩

/-- Polling a renewal: a follower reads its outcome once it has one, and a leader's renewal
call is answered and ends the wave, or stays in flight. -/
theorem Renewal.poll_path (r : Renewal (Nat × φ)) (c : Client (ν × Ledger))
    (hf : (Task.running (.renewal r)).Flies sv.request c.net.2 k) :
    Path A sv.request q k c (.ofRenewal (.pending r)) (r.poll (tr.logged k) c).1
      (renewStep (r.poll (tr.logged k) c)).2 := by
  unfold Renewal.poll
  split
  next ticket =>
    split
    next o ho =>
      refine ⟨?_, fun g hg => by simp [renewStep, Task.flight?] at hg⟩
      simp only [renewStep, Task.point, Point.ofRenewal_outcome]
      exact .single (.receive ho)
    next => exact ⟨.refl, fun g hg => by simp [renewStep, Task.flight?] at hg⟩
  next f =>
    obtain ⟨q', hq', hreq⟩ := hf f rfl
    dsimp only
    split
    next g heq => exact wait_path sv k Point.leading f g (hf f rfl) heq rfl rfl
    next r heq =>
      have hnet := logged_poll_ready tr k heq
      have hans := sv.logged_poll_ready k heq
      rw [hreq] at hans
      rcases hc : conclude r { c with net := ((tr.logged k).poll f c.net).1 } with ⟨c₁, o⟩
      refine ⟨?_, fun g hg => by simp [finishWave, renewStep, Task.flight?] at hg⟩
      simp only [finishWave, renewStep, Task.point, Point.ofRenewal_outcome]
      have hnet' : ((tr.logged k).poll f c.net).1 = (((tr.logged k).poll f c.net).1.1, c.net.2.reply f.1 r) := by
        rw [← hnet]
      rw [hnet'] at hc
      exact .single (.conclude _ r hq' hans hc)

/-- The reply to a first attempt: a 401 renews, and anything else is the answer. -/
theorem answered_path (s : Sending) (reply : Reply) (c : Client (ν × Ledger))
    (hs : s.renews = true) (ha : s.request.attempt = .fresh) :
    Path A sv.request s.request k c (.ofFirst s.token reply) (answered (tr.logged k) s reply c).1
      (sendStep (answered (tr.logged k) s reply c)).2 := by
  unfold answered
  split
  next err => exact ⟨.refl, fun g hg => by simp [sendStep, Task.flight?] at hg⟩
  next resp =>
    -- with renewal on, a first attempt renews exactly on a 401
    have hren : s.renewable resp = resp.isUnauthorized := by
      simp [Sending.renewable, hs, ha]
    split
    next h =>
      have hpt : Point.ofFirst s.token (.ok resp) = .refused s.token := by
        simp [Point.ofFirst, ← hren, h]
      rw [hpt]
      exact renewed_path sv k s (ensureFresh_path sv k s.token c)
    next h =>
      have hpt : Point.ofFirst s.token (.ok resp) = .done resp.intoResult := by
        simp only [Point.ofFirst, ← hren, h, if_false, Bool.false_eq_true]
      rw [hpt]
      exact ⟨.refl, fun g hg => by simp [sendStep, Task.flight?] at hg⟩

/-- The first attempt is sent and stays in flight. -/
theorem first_pending_path {tok : Option AccessToken} (hread : c.store.accessToken = .ok tok)
    {f : Nat × φ} (heq : ((tr.logged k).send (q.bearing tok) c.net).2 = .pending f) :
    Path A sv.request q k c .start { c with net := ((tr.logged k).send (q.bearing tok) c.net).1 }
      (.running (.exchange ⟨⟨q, true, tok⟩, .first f⟩)) := by
  obtain ⟨hf, hnet⟩ := logged_send_pending tr k heq
  have hreq := sv.logged_send_pending k heq
  have hnet' : ((tr.logged k).send (q.bearing tok) c.net).1 =
      (((tr.logged k).send (q.bearing tok) c.net).1.1, c.net.2.send k (q.bearing tok)) := by
    rw [← hnet]
  refine ⟨?_, ?_⟩
  · show ReflTransGen _ _ (_, Point.first tok f.1)
    rw [hf, hnet']
    exact .single (.send _ hread)
  · intro g hg
    simp only [Task.flight?, Option.some.injEq] at hg
    subst hg
    exact ⟨_, by simp [hnet, hf], hreq⟩

/-- The first attempt is sent and answered at once. -/
theorem first_ready_path {tok : Option AccessToken} (hread : c.store.accessToken = .ok tok)
    (ha : q.attempt = .fresh) {r : Reply} (heq : ((tr.logged k).send (q.bearing tok) c.net).2 = .ready r) :
    Path A sv.request q k c .start
      (answered (tr.logged k) ⟨q, true, tok⟩ r { c with net := ((tr.logged k).send (q.bearing tok) c.net).1 }).1
      (sendStep (answered (tr.logged k) ⟨q, true, tok⟩ r
        { c with net := ((tr.logged k).send (q.bearing tok) c.net).1 })).2 := by
  have hnet := logged_send_ready tr k heq
  have hans := sv.logged_send_ready k heq
  have hnet' : ((tr.logged k).send (q.bearing tok) c.net).1 =
      (((tr.logged k).send (q.bearing tok) c.net).1.1,
        (c.net.2.send k (q.bearing tok)).reply c.net.2.sent.length r) := by
    rw [← hnet]
  refine (answered_path sv k ⟨q, true, tok⟩ r _ rfl ha).head ?_
  rw [hnet']
  exact .tail (.single (.send ((tr.logged k).send (q.bearing tok) c.net).1.1 hread))
    (.answer _ r (by simp) hans)

/-- The first step of a request with renewal on: it is sent with the stored token, and answered
if its reply came at once. -/
theorem start_path (q : Http.Request) (c : Client (ν × Ledger)) (ha : q.attempt = .fresh) :
    Path A sv.request q k c .start (Client.start (tr.logged k) q true c).1
      (sendStep (Client.start (tr.logged k) q true c)).2 := by
  unfold Client.start
  simp only [if_true]
  rcases hread : c.store.accessToken with err | tok
  · exact ⟨.single (.unread hread), fun g hg => by simp [sendStep, Task.flight?] at hg⟩
  -- the request goes with the stored token as its bearer, if there is one
  · cases tok with
    | none =>
      dsimp only
      split
      next f heq => exact first_pending_path sv k hread heq
      next r heq => exact first_ready_path sv k hread ha heq
    | some t =>
      dsimp only
      split
      next f heq => exact first_pending_path sv k hread heq
      next r heq => exact first_ready_path sv k hread ha heq

/-- Polling a request under way: its reply is put down when it comes, and a first attempt
refused with a 401 goes on to renew. -/
theorem Exchange.poll_path (ex : Exchange (Nat × φ)) (c : Client (ν × Ledger))
    (hs : ex.sending.renews = true) (ha : ex.sending.request.attempt = .fresh)
    (hf : (Task.running (.exchange ex)).Flies sv.request c.net.2 k) :
    Path A sv.request ex.sending.request k c ex.point (ex.poll (tr.logged k) c).1
      (sendStep (ex.poll (tr.logged k) c)).2 := by
  rcases ex with ⟨s, f | r | f⟩
  · have hff := hf f rfl
    obtain ⟨q', hq', hreq⟩ := hff
    unfold Exchange.poll
    dsimp only
    split
    next g heq => exact wait_path sv k (Point.first s.token) f g (hf f rfl) heq rfl rfl
    next r heq =>
      have hnet := logged_poll_ready tr k heq
      have hans := sv.logged_poll_ready k heq
      rw [hreq] at hans
      have hnet' : ((tr.logged k).poll f c.net).1 =
          (((tr.logged k).poll f c.net).1.1, c.net.2.reply f.1 r) := by
        rw [← hnet]
      refine (answered_path sv k s r _ hs ha).head ?_
      rw [hnet']
      exact .single (.answer _ r hq' hans)
  · have hr : (Task.running (.renewal r)).Flies sv.request c.net.2 k := by
      rcases r with ticket | f
      · intro g hg
        cases hg
      · exact hf
    exact renewed_path sv k s (Renewal.poll_path sv k r c hr)
  · have hff := hf f rfl
    obtain ⟨q', hq', hreq⟩ := hff
    unfold Exchange.poll
    dsimp only
    split
    next g heq => exact wait_path sv k Point.replay f g (hf f rfl) heq rfl rfl
    next r heq =>
      have hnet := logged_poll_ready tr k heq
      have hans := sv.logged_poll_ready k heq
      rw [hreq] at hans
      have hnet' : ((tr.logged k).poll f c.net).1 =
          (((tr.logged k).poll f c.net).1.1, c.net.2.reply f.1 r) := by
        rw [← hnet]
      refine ⟨?_, fun g hg => by simp [sendStep, Task.flight?] at hg⟩
      show ReflTransGen _ _ (_, Point.done (r.bind Http.Response.intoResult))
      rw [hnet']
      exact .single (.reanswer _ r hq' hans)

end Steps

end Client

end BearerSession
