import BearerSession.Proofs.Progress

/-!
# A wave of requests

Requests sent through one client find their stored token refused, and one wave of renewal
renews it or fails. This module holds what the two endings share.

The backend of such a wave (`Client.Backend`) serves a request that presents the new access
token, refuses with a 401 every other request, and answers the renewal call as the ending has
it. A `Wave` fixes the first store and the pair it holds, the endpoints, and what the store
holds and the followers are sent once the wave has settled. Before the wave settles, the old
pair is stored, no outcome has gone out, and the one renewal call, if it was made, is still
without its reply (`Wave.Before`). After, the store holds what the wave left, no follower waits,
and the renewal call has had its reply (`Wave.Settled`). `Wave.Inv` holds between any two steps,
and `Wave.Grows` is all that a move of one request may change for the others.
-/

namespace BearerSession

/-! ## Requests, responses and tokens -/

/-- A request presents its bearer in its `Authorization` header. -/
theorem Http.Request.headerValue?_withBearer (q : Http.Request) (t : AccessToken) :
    (q.withBearer t).headerValue? "Authorization" = some t.bearer := by
  unfold Http.Request.withBearer Http.Request.header Http.Request.headerValue? Http.headerLookup
  -- every header left of an equal name was taken out
  have hnone : (q.headers.filter fun x => !Http.sameName x.1 "Authorization").find?
      (fun x => Http.sameName x.1 "Authorization") = none := by
    rw [List.find?_eq_none]
    intro x hx
    simpa using (List.mem_filter.1 hx).2
  rw [List.find?_append, hnone]
  simp [Http.sameName]

@[simp] theorem Http.Request.bearing_target (q : Http.Request) (tok : Option AccessToken) :
    (q.bearing tok).target = q.target := by
  cases tok <;> rfl

@[simp] theorem Http.Request.bearing_some (q : Http.Request) (t : AccessToken) :
    q.bearing (some t) = q.withBearer t := rfl

@[simp] theorem Http.Request.bearing_none (q : Http.Request) : q.bearing none = q := rfl

theorem AccessToken.bearer_injective {a b : AccessToken} (h : a.bearer = b.bearer) : a = b := by
  cases a
  cases b
  simp only [AccessToken.bearer] at h
  rw [(String.append_right_inj _).1 h]

namespace Http.Response

variable {r : Http.Response}

theorem intoResult_of_isSuccess (h : r.isSuccess = true) : r.intoResult = .ok r := by
  simp [intoResult, h]

theorem isUnauthorized_of_isSuccess (h : r.isSuccess = true) : r.isUnauthorized = false := by
  simp only [isSuccess, Bool.and_eq_true, decide_eq_true_eq] at h
  simp only [isUnauthorized, beq_eq_false_iff_ne]
  omega

theorem isUnauthorized_of_status (h : r.status = 401) : r.isUnauthorized = true := by
  simp [isUnauthorized, h]

theorem isSuccess_of_status {s : Nat} (h : r.status = s) (hs : s < 200 ∨ 300 ≤ s) :
    r.isSuccess = false := by
  simp only [isSuccess, h, Bool.and_eq_false_iff, decide_eq_false_iff_not]
  omega

end Http.Response

theorem Store.accessToken_of_get {s : Store} {p : Option Pair} (h : s.get = .ok p) :
    s.accessToken = .ok (p.map Pair.access) := by
  simp [Store.accessToken, h, Except.map]

theorem Store.refreshToken_of_get {s : Store} {p : Option Pair} (h : s.get = .ok p) :
    s.refreshToken = .ok (p.map Pair.refresh) := by
  simp [Store.refreshToken, h, Except.map]

namespace Client

variable {ν φ : Type}

/-- A success whose body is a pair renews the store with it, when the store keeps it. -/
theorem conclude_of_pair {c : Client ν} {resp : Http.Response} {pair : Pair}
    (hs : resp.isSuccess = true) (hd : resp.decode (Pair.reader "TokenPairResponse") = .ok pair)
    (hset : (c.store.set pair).2 = .ok ()) :
    conclude (.ok resp) c = ({ c with store := (c.store.set pair).1 }, .ok pair.access) := by
  unfold conclude
  simp only [hs, Bool.not_true, Bool.false_eq_true, if_false, hd]
  rcases hp : c.store.set pair with ⟨store, saved⟩
  rw [hp] at hset
  cases hset
  rfl

/-- A response outside 2xx refuses the renewal with its status. -/
theorem conclude_of_status {c : Client ν} {resp : Http.Response} (hs : resp.isSuccess = false) :
    conclude (.ok resp) c =
      (c, .error (.refused ⟨some resp.status, resp.reason.getD "renewal rejected"⟩)) := by
  simp [conclude, hs]

/-! ## The ledger -/

namespace Ledger

variable {l : Ledger} {k j i i' : Nat} {q q' : Http.Request} {r : Reply}

/-- The path of the request at place `i`, if there is one. -/
def target? (l : Ledger) (i : Nat) : Option String := l.sent[i]?.map (·.2.target)

theorem target?_of_getElem? {x : Nat × Http.Request} (h : l.sent[i]? = some x) :
    l.target? i = some x.2.target := by
  simp [target?, h]

theorem target?_send (h : i < l.sent.length) : (l.send k q).target? i = l.target? i := by
  simp only [target?, getElem?_send_of_lt h]

theorem lt_of_target? {path : String} (h : l.target? i = some path) : i < l.sent.length := by
  simp only [target?, Option.map_eq_some_iff] at h
  obtain ⟨x, hx, -⟩ := h
  exact (List.getElem?_eq_some_iff.1 hx).1

/-- A request out stays out when another is sent. -/
theorem Out.send (h : l.Out j q i) : (l.send k q').Out j q i :=
  ⟨getElem?_send_of_some h.1, h.2⟩

/-- A request out stays out when a request of another task is answered. -/
theorem Out.reply (h : l.Out j q i) (hi : l.sent[i']? = some (k, q')) (hjk : j ≠ k) :
    (l.reply i' r).Out j q i := by
  refine ⟨h.1, fun ha => ?_⟩
  rcases answered_reply.1 ha with ha | rfl
  · exact h.2 ha
  · rw [h.1, Option.some.injEq, Prod.mk.injEq] at hi
    exact hjk hi.1

/-- What task `k` sends is out, when every reply on the ledger is to a request on it. -/
theorem out_send (hlt : ∀ ir ∈ l.replies, ir.1 < l.sent.length) :
    (l.send k q).Out k q l.sent.length :=
  ⟨getElem?_send_length, not_answered_length (by simpa using hlt)⟩

theorem Out.entry (h : l.Out k q i) {x : Nat × Http.Request} (hi : l.sent[i]? = some x) :
    x = (k, q) := by
  rw [h.1, Option.some.injEq] at hi
  exact hi.symm

theorem sentBy_eq_zero {path : String} (h : ∀ x ∈ l.sent, x.1 ≠ k) : l.sentBy k path = 0 :=
  List.length_eq_zero_iff.2 (List.filter_eq_nil_iff.2 fun x hx => by simp [h x hx])

theorem Extends.getElem? {l' : Ledger} (hl : l.Extends l') {x : Nat × Http.Request}
    (h : l.sent[i]? = some x) : l'.sent[i]? = some x := by
  obtain ⟨rest, hrest⟩ := hl.1
  rw [← hrest, List.getElem?_append_left (List.getElem?_eq_some_iff.1 h).1]
  exact h

theorem Extends.target? {l' : Ledger} (hl : l.Extends l') {path : String} (h : l.target? i = some path) :
    l'.target? i = some path := by
  simp only [Ledger.target?, Option.map_eq_some_iff] at h ⊢
  obtain ⟨x, hx, hpath⟩ := h
  exact ⟨x, hl.getElem? hx, hpath⟩

end Ledger

/-! ## The backend of a wave -/

/-- The backend of a wave renewed to the access token `fresh`: a request to a path other than
the refresh path is served when it presents `fresh` and refused with a 401 when it does not, and
the renewal call is answered as `renewal` allows. No request fails on the way. -/
def Backend (e : Endpoints) (fresh : AccessToken) (renewal : Http.Response → Prop)
    (q : Http.Request) (r : Reply) : Prop :=
  ∃ resp, r = .ok resp ∧
    if q.target = e.refresh then renewal resp
    else if q.headerValue? "Authorization" = some fresh.bearer then resp.isSuccess = true
    else resp.status = 401

namespace Backend

variable {e : Endpoints} {fresh : AccessToken} {renewal : Http.Response → Prop} {q : Http.Request}
  {r : Reply}

theorem renews (h : Backend e fresh renewal q r) (hq : q.target = e.refresh) :
    ∃ resp, r = .ok resp ∧ renewal resp := by
  obtain ⟨resp, rfl, h⟩ := h
  rw [if_pos hq] at h
  exact ⟨resp, rfl, h⟩

theorem serves (h : Backend e fresh renewal q r) (hq : q.target ≠ e.refresh)
    (hb : q.headerValue? "Authorization" = some fresh.bearer) :
    ∃ resp, r = .ok resp ∧ resp.isSuccess = true := by
  obtain ⟨resp, rfl, h⟩ := h
  rw [if_neg hq, if_pos hb] at h
  exact ⟨resp, rfl, h⟩

theorem refuses (h : Backend e fresh renewal q r) (hq : q.target ≠ e.refresh)
    (hb : q.headerValue? "Authorization" ≠ some fresh.bearer) :
    ∃ resp, r = .ok resp ∧ resp.isUnauthorized = true := by
  obtain ⟨resp, rfl, h⟩ := h
  rw [if_neg hq, if_neg hb] at h
  exact ⟨resp, rfl, Http.Response.isUnauthorized_of_status h⟩

/-- A request that presents another token than `fresh` is refused with a 401. -/
theorem refuses_bearer {t : AccessToken} (h : Backend e fresh renewal (q.withBearer t) r)
    (hq : q.target ≠ e.refresh)
    (ht : t ≠ fresh) : ∃ resp, r = .ok resp ∧ resp.isUnauthorized = true := by
  refine h.refuses (by simpa using hq) ?_
  rw [Http.Request.headerValue?_withBearer, Ne, Option.some.injEq]
  exact fun hb => ht (AccessToken.bearer_injective hb)

end Backend

/-! ## Waves -/

/-- A wave of renewal over the endpoints `endpoints`, in a client whose store was first `first`,
holding `old`, and keeps every write. Once the wave has settled, the store holds `stored`, other
than `old`, and every outcome sent to a follower is one that `Outcome` allows. -/
structure Wave where
  first : Store
  endpoints : Endpoints
  old : Pair
  stored : Option Pair
  Outcome : RenewalOutcome → Prop
  faithful : first.Faithful
  first_get : first.get = .ok (some old)
  settles : stored ≠ some old

namespace Wave

variable (w : Wave)

/-- The renewal call of the wave, with the old refresh token. -/
def call : Http.Request := w.endpoints.refreshRequest w.old.refresh

@[simp] theorem call_target : w.call.target = w.endpoints.refresh := rfl

/-- The store is one that writes made of the first, and every reply on the ledger is to a
request on it. -/
structure Sound (s : Store) (l : Ledger) : Prop where
  written : w.first.Written s
  replies_lt : ∀ ir ∈ l.replies, ir.1 < l.sent.length

/-- Before the wave settles: the old pair is stored, no outcome has gone out, the renewal call
was made only while the wave runs, and no renewal call has had its reply. -/
structure Before (s : Store) (co : Coordinator) (l : Ledger) : Prop where
  stored : s.get = .ok (some w.old)
  quiet : co.delivered = []
  calls : l.callsTo w.endpoints.refresh = [] ∨
    (l.callsTo w.endpoints.refresh = [w.call] ∧ co.refreshing = true)
  unanswered : ∀ ir ∈ l.replies, l.target? ir.1 ≠ some w.endpoints.refresh

/-- After the wave settled: the store holds what the wave left, no follower waits, every outcome
sent is one the wave allows, and the one renewal call made has had its reply. -/
structure Settled (s : Store) (co : Coordinator) (l : Ledger) : Prop where
  stored : s.get = .ok w.stored
  waiters : co.waiters = []
  outcomes : ∀ d ∈ co.delivered, w.Outcome d.2
  calls : l.callsTo w.endpoints.refresh = [w.call]
  answered : ∃ ir ∈ l.replies, l.target? ir.1 = some w.endpoints.refresh

/-- A follower's ticket waits for its outcome, or has one that the wave allows. -/
def Follows (co : Coordinator) (t : Nat) : Prop :=
  (t ∈ co.waiters ∧ co.outcome? t = none) ∨ ∃ o, co.outcome? t = some o ∧ w.Outcome o

/-- What holds between two steps: the endpoints are the wave's, the store and the ledger are
sound, and the wave has not settled, or has settled and no new one runs. -/
structure Inv (ep : Endpoints) (s : Store) (co : Coordinator) (l : Ledger) : Prop where
  endpoints : ep = w.endpoints
  sound : w.Sound s l
  phase : w.Before s co l ∨ (w.Settled s co l ∧ co.refreshing = false)

/-- What a move of task `k` may change for the other tasks: the ledger only grows, their
requests out stay out, they sent no more, followers keep waiting or have an allowed outcome, a
settled wave stays settled, and while another task's renewal call is out the wave runs on
unsettled. -/
structure Grows (k : Nat) (s : Store) (co : Coordinator) (l : Ledger) (s' : Store) (co' : Coordinator)
    (l' : Ledger) : Prop where
  grows : l.Extends l'
  out : ∀ j, j ≠ k → ∀ q i, l.Out j q i → l'.Out j q i
  sentBy : ∀ j, j ≠ k → l'.sentBy j w.endpoints.refresh = l.sentBy j w.endpoints.refresh
  follows : ∀ t, w.Follows co t → w.Follows co' t
  settled : w.Settled s co l → w.Settled s' co' l'
  leading : ∀ j, j ≠ k → ∀ i, w.Before s co l → co.refreshing = true → l.Out j w.call i →
    w.Before s' co' l' ∧ co'.refreshing = true

variable {w} {s s' : Store} {co co' : Coordinator} {l l' : Ledger} {k i : Nat} {q : Http.Request}
  {r : Reply}

/-! ### Before and after -/

theorem Before.not_settled (hb : w.Before s co l) : ¬ w.Settled s co l := fun hs =>
  w.settles (Except.ok.inj (hs.stored.symm.trans hb.stored))

theorem Sound.send (h : w.Sound s l) (k : Nat) (q : Http.Request) : w.Sound s (l.send k q) :=
  ⟨h.written, fun ir hir => by simpa using Nat.lt_succ_of_lt (h.replies_lt ir hir)⟩

theorem Sound.reply (h : w.Sound s l) (hi : i < l.sent.length) (r : Reply) :
    w.Sound s (l.reply i r) := by
  refine ⟨h.written, fun ir hir => ?_⟩
  rcases List.mem_append.1 hir with hir | hir
  · exact h.replies_lt ir hir
  · rw [List.mem_singleton.1 hir]
    exact hi

theorem Before.send (hb : w.Before s co l) (hs : w.Sound s l) (hq : q.target ≠ w.endpoints.refresh)
    (k : Nat) : w.Before s co (l.send k q) where
  stored := hb.stored
  quiet := hb.quiet
  calls := by rw [Ledger.callsTo_send_of_ne hq]; exact hb.calls
  unanswered := fun ir hir => by
    rw [Ledger.target?_send (hs.replies_lt ir hir)]
    exact hb.unanswered ir hir

/-- A reply to a request sent elsewhere than the refresh path keeps the wave unsettled. -/
theorem Before.reply (hb : w.Before s co l) {x : Nat × Http.Request} (hi : l.sent[i]? = some x)
    (hx : x.2.target ≠ w.endpoints.refresh) (r : Reply) : w.Before s co (l.reply i r) where
  stored := hb.stored
  quiet := hb.quiet
  calls := hb.calls
  unanswered := fun ir hir => by
    rcases List.mem_append.1 hir with hir | hir
    · exact hb.unanswered ir hir
    · rw [List.mem_singleton.1 hir]
      show l.target? i ≠ _
      rw [Ledger.target?_of_getElem? hi]
      exact fun h => hx (Option.some.inj h)

theorem Settled.send (hs : w.Settled s co l) (hq : q.target ≠ w.endpoints.refresh) (k : Nat) :
    w.Settled s co (l.send k q) where
  stored := hs.stored
  waiters := hs.waiters
  outcomes := hs.outcomes
  calls := by rw [Ledger.callsTo_send_of_ne hq]; exact hs.calls
  answered := by
    obtain ⟨ir, hir, ht⟩ := hs.answered
    exact ⟨ir, hir, by rw [Ledger.target?_send (Ledger.lt_of_target? ht)]; exact ht⟩

theorem Settled.reply (hs : w.Settled s co l) (i : Nat) (r : Reply) : w.Settled s co (l.reply i r) where
  stored := hs.stored
  waiters := hs.waiters
  outcomes := hs.outcomes
  calls := hs.calls
  answered := by
    obtain ⟨ir, hir, ht⟩ := hs.answered
    exact ⟨ir, List.mem_append_left _ hir, ht⟩

theorem Before.enqueue (hb : w.Before s co l) : w.Before s co.enqueue.1 l :=
  ⟨hb.stored, hb.quiet, hb.calls, hb.unanswered⟩

theorem Before.elect (hb : w.Before s co l) : w.Before s { co with refreshing := true } l :=
  ⟨hb.stored, hb.quiet, hb.calls.imp_right fun h => ⟨h.1, rfl⟩, hb.unanswered⟩

/-- The first renewal call goes out while the wave runs. -/
theorem Before.renew (hb : w.Before s co l) (hs : w.Sound s l)
    (hnil : l.callsTo w.endpoints.refresh = []) (hr : co.refreshing = true) (k : Nat) :
    w.Before s co (l.send k w.call) where
  stored := hb.stored
  quiet := hb.quiet
  calls := .inr ⟨by rw [Ledger.callsTo_send_of_eq w.call_target, hnil]; rfl, hr⟩
  unanswered := fun ir hir => by
    rw [Ledger.target?_send (hs.replies_lt ir hir)]
    exact hb.unanswered ir hir

/-- While the wave has not settled, the renewal call, if out, is the only call to the refresh
path. -/
theorem Before.calls_of_out (hb : w.Before s co l) {j : Nat} (h : l.Out j w.call i) :
    l.callsTo w.endpoints.refresh = [w.call] ∧ co.refreshing = true := by
  rcases hb.calls with hnil | hcall
  · have hmem := Ledger.mem_callsTo h.1 w.call_target
    rw [hnil] at hmem
    exact absurd hmem List.not_mem_nil
  · exact hcall

/-- With no wave running and the wave not settled, no renewal call was made. -/
theorem Before.calls_nil (hb : w.Before s co l) (hr : co.refreshing = false) :
    l.callsTo w.endpoints.refresh = [] :=
  hb.calls.resolve_right fun h => Bool.false_ne_true (hr.symm.trans h.2)

/-- Before the wave settled the old refresh token is stored, and the renewal call made with it
is the wave's. -/
theorem Before.renew_call {ep : Endpoints} {t : RefreshToken} (hb : w.Before s co l)
    (hep : ep = w.endpoints) (hread : s.refreshToken = .ok (some t)) : ep.refreshRequest t = w.call := by
  rw [Store.refreshToken_of_get hb.stored] at hread
  obtain rfl : t = w.old.refresh := (Option.some.inj (Except.ok.inj hread)).symm
  rw [hep]
  rfl

/-- The renewal call out at `i` is answered and the wave ends on an outcome it allows, with the
store `s'` holding what the wave leaves: the wave has settled. -/
theorem Before.conclude {s' : Store} {o : RenewalOutcome} {k : Nat} (hb : w.Before s co l)
    (hout : l.Out k w.call i) (ho : w.Outcome o) (hs' : s'.get = .ok w.stored) (r : Reply) :
    w.Settled s' (co.release o) (l.reply i r) where
  stored := hs'
  waiters := rfl
  outcomes := fun d hd => by
    -- no outcome went out before, and each follower gets `o`
    simp only [Coordinator.release_delivered, hb.quiet, List.nil_append, List.mem_map] at hd
    obtain ⟨t, -, rfl⟩ := hd
    exact ho
  calls := (hb.calls_of_out hout).1
  answered := ⟨(i, r), by simp, Ledger.target?_of_getElem? hout.1⟩

theorem Settled.elect (hs : w.Settled s co l) : w.Settled s { co with refreshing := true } l :=
  ⟨hs.stored, hs.waiters, hs.outcomes, hs.calls, hs.answered⟩

/-! ### Followers -/

/-- A request refused while the wave runs follows it with the next ticket, which has no
outcome yet. -/
theorem Before.follows_issued (hb : w.Before s co l) : w.Follows co.enqueue.1 co.issued :=
  .inl ⟨by simp, by simp [Coordinator.outcome?, hb.quiet]⟩

/-- An outcome a follower reads is one the wave allows. -/
theorem Follows.allowed {t : Nat} {o : RenewalOutcome} (hf : w.Follows co t)
    (ho : co.outcome? t = some o) : w.Outcome o := by
  rcases hf with ⟨-, hnone⟩ | ⟨o', ho', hallowed⟩
  · rw [ho] at hnone
    cases hnone
  · rw [ho, Option.some.injEq] at ho'
    rwa [ho']

theorem Follows.enqueue {t : Nat} (h : w.Follows co t) : w.Follows co.enqueue.1 t := by
  rcases h with ⟨hw, hnone⟩ | ho
  · exact .inl ⟨by simp [hw], hnone⟩
  · exact .inr ho

theorem Follows.elect {t : Nat} (h : w.Follows co t) : w.Follows { co with refreshing := true } t := h

/-- Ending a wave with an outcome the wave allows keeps every follower as it should be. -/
theorem Follows.release {t : Nat} {o : RenewalOutcome} (ho : w.Outcome o) (h : w.Follows co t) :
    w.Follows (co.release o) t := by
  rcases h with ⟨hw, hnone⟩ | ⟨o', hsome, ho'⟩
  · -- the waiting ticket is sent `o`, its first outcome
    refine .inr ⟨o, ?_, ho⟩
    rw [Coordinator.outcome?_eq_head?, List.head?_eq_none_iff] at hnone
    rw [Coordinator.outcome?_eq_head?, Coordinator.sentTo_release, hnone, List.nil_append]
    have hcount : 0 < co.waiters.count t := List.count_pos_iff.2 hw
    obtain ⟨n, hn⟩ : ∃ n, co.waiters.count t = n + 1 := ⟨_, (Nat.succ_pred_eq_of_pos hcount).symm⟩
    rw [hn, List.replicate_succ, List.head?_cons]
  · refine .inr ⟨o', ?_, ho'⟩
    rw [Coordinator.outcome?_eq_head?] at hsome ⊢
    rw [Coordinator.sentTo_release]
    obtain ⟨rest, hrest⟩ : ∃ rest, co.sentTo t = o' :: rest := by
      cases hs : co.sentTo t with
      | nil => rw [hs] at hsome; cases hsome
      | cons a rest =>
        rw [hs, List.head?_cons, Option.some.injEq] at hsome
        exact ⟨rest, by rw [hsome]⟩
    rw [hrest, List.cons_append, List.head?_cons]

/-- Ending a wave nobody follows changes no follower. -/
theorem Follows.release_quiet {t : Nat} {o : RenewalOutcome} (hw : co.waiters = [])
    (h : w.Follows co t) : w.Follows (co.release o) t := by
  have hsame : (co.release o).outcome? t = co.outcome? t := by
    rw [Coordinator.outcome?_eq_head?, Coordinator.outcome?_eq_head?, Coordinator.sentTo_release, hw]
    simp
  rcases h with ⟨hmem, -⟩ | ⟨o', hsome, ho'⟩
  · rw [hw] at hmem
    exact absurd hmem List.not_mem_nil
  · exact .inr ⟨o', hsame.trans hsome, ho'⟩

/-! ### What a move may change for the others -/

theorem Grows.refl (k : Nat) (s : Store) (co : Coordinator) (l : Ledger) : w.Grows k s co l s co l where
  grows := .refl l
  out := fun _ _ _ _ h => h
  sentBy := fun _ _ => rfl
  follows := fun _ h => h
  settled := id
  leading := fun _ _ _ hb hr _ => ⟨hb, hr⟩

theorem Grows.trans {s'' : Store} {co'' : Coordinator} {l'' : Ledger} (h : w.Grows k s co l s' co' l')
    (h' : w.Grows k s' co' l' s'' co'' l'') : w.Grows k s co l s'' co'' l'' where
  grows := h.grows.trans h'.grows
  out := fun j hj q i ho => h'.out j hj q i (h.out j hj q i ho)
  sentBy := fun j hj => (h'.sentBy j hj).trans (h.sentBy j hj)
  follows := fun t ht => h'.follows t (h.follows t ht)
  settled := fun hs => h'.settled (h.settled hs)
  leading := fun j hj i hb hr ho =>
    (h.leading j hj i hb hr ho).elim fun hb' hr' => h'.leading j hj i hb' hr' (h.out j hj _ i ho)

/-- `Grows` between two clients: what a move of task `k` may change for the other tasks. -/
def Rely (w : Wave) (k : Nat) (c c' : Client (ν × Ledger)) : Prop :=
  w.Grows k c.store c.coordinator c.net.2 c'.store c'.coordinator c'.net.2

theorem Rely.refl (w : Wave) (k : Nat) (c : Client (ν × Ledger)) : w.Rely k c c :=
  Grows.refl k c.store c.coordinator c.net.2

theorem Rely.trans {w : Wave} {k : Nat} {c c' c'' : Client (ν × Ledger)} (h : w.Rely k c c')
    (h' : w.Rely k c' c'') : w.Rely k c c'' :=
  Grows.trans h h'

/-- Task `k` sends a request elsewhere than the refresh path. -/
theorem Grows.send (hs : w.Sound s l) (hq : q.target ≠ w.endpoints.refresh) :
    w.Grows k s co l s co (l.send k q) where
  grows := Ledger.extends_send
  out := fun _ _ _ _ h => h.send
  sentBy := fun _ hj => Ledger.sentBy_send_other (Ne.symm hj)
  follows := fun _ h => h
  settled := fun h => h.send hq k
  leading := fun _ _ _ hb hr _ => ⟨hb.send hs hq k, hr⟩

/-- A request of task `k`, sent elsewhere than the refresh path, is answered. -/
theorem Grows.reply {x : Nat × Http.Request} (hi : l.sent[i]? = some x) (hk : x.1 = k)
    (hx : x.2.target ≠ w.endpoints.refresh) (r : Reply) : w.Grows k s co l s co (l.reply i r) where
  grows := Ledger.extends_reply
  out := fun _ hj _ _ h => h.reply (by rw [hi, ← hk]) hj
  sentBy := fun _ _ => Ledger.sentBy_reply
  follows := fun _ h => h
  settled := fun h => h.reply i r
  leading := fun _ _ _ hb hr _ => ⟨hb.reply hi hx r, hr⟩

/-- Task `k` follows the running wave, which has not settled. -/
theorem Grows.follow (hb : w.Before s co l) : w.Grows k s co l s co.enqueue.1 l where
  grows := .refl l
  out := fun _ _ _ _ h => h
  sentBy := fun _ _ => rfl
  follows := fun _ h => h.enqueue
  settled := fun h => absurd h hb.not_settled
  leading := fun _ _ _ hb hr _ => ⟨hb.enqueue, hr⟩

theorem Grows.elect : w.Grows k s co l s { co with refreshing := true } l where
  grows := .refl l
  out := fun _ _ _ _ h => h
  sentBy := fun _ _ => rfl
  follows := fun _ h => h.elect
  settled := Settled.elect
  leading := fun _ _ _ hb _ _ => ⟨hb.elect, rfl⟩

/-- Task `k` sends the renewal call, the first one. -/
theorem Grows.renew (hb : w.Before s co l) (hnil : l.callsTo w.endpoints.refresh = []) :
    w.Grows k s co l s co (l.send k w.call) where
  grows := Ledger.extends_send
  out := fun _ _ _ _ h => h.send
  sentBy := fun _ hj => Ledger.sentBy_send_other (Ne.symm hj)
  follows := fun _ h => h
  settled := fun h => absurd h hb.not_settled
  leading := fun _ _ _ hb' _ ho => by
    have := (hb'.calls_of_out ho).1
    rw [hnil] at this
    cases this

/-- Task `k`'s renewal call is answered and the wave ends with an outcome it allows: no other
task leads, and every follower has its outcome. -/
theorem Grows.conclude (hb : w.Before s co l) (hout : l.Out k w.call i) {o : RenewalOutcome}
    (ho : w.Outcome o) (s' : Store) (r : Reply) : w.Grows k s co l s' (co.release o) (l.reply i r) where
  grows := Ledger.extends_reply
  out := fun _ hj _ _ h => h.reply hout.1 hj
  sentBy := fun _ _ => Ledger.sentBy_reply
  follows := fun _ h => h.release ho
  settled := fun h => absurd h hb.not_settled
  leading := fun j hj i' _ _ ho' => by
    -- one renewal call is out, so its task is `k`
    have hcalls := (hb.calls_of_out hout).1
    have heq := Ledger.eq_of_callsTo_singleton hcalls hout.1 ho'.1 w.call_target w.call_target
    subst heq
    have := hout.entry ho'.1
    simp only [Prod.mk.injEq] at this
    exact absurd this.1 hj

/-! ### Between steps -/

theorem Inv.send {ep : Endpoints} (h : w.Inv ep s co l) (hq : q.target ≠ w.endpoints.refresh)
    (k : Nat) : w.Inv ep s co (l.send k q) where
  endpoints := h.endpoints
  sound := h.sound.send k q
  phase := h.phase.imp (fun hb => hb.send h.sound hq k) (And.imp_left fun hs => hs.send hq k)

theorem Inv.reply {ep : Endpoints} (h : w.Inv ep s co l) {x : Nat × Http.Request}
    (hi : l.sent[i]? = some x) (hx : x.2.target ≠ w.endpoints.refresh) (r : Reply) :
    w.Inv ep s co (l.reply i r) where
  endpoints := h.endpoints
  sound := h.sound.reply (List.getElem?_eq_some_iff.1 hi).1 r
  phase := h.phase.imp (fun hb => hb.reply hi hx r) (And.imp_left fun hs => hs.reply i r)

/-- The wave ends on the reply to its renewal call, out at `i`, with an outcome it allows and
the store written to `s'`, which holds what the wave leaves: the wave has settled, what holds
between steps holds, and the other tasks see no more than `Grows` lets them. -/
theorem Inv.conclude {ep : Endpoints} {s' : Store} {o : RenewalOutcome} {k : Nat} (h : w.Inv ep s co l)
    (hb : w.Before s co l) (hout : l.Out k w.call i) (ho : w.Outcome o) (hw : w.first.Written s')
    (hs' : s'.get = .ok w.stored) (r : Reply) :
    w.Settled s' (co.release o) (l.reply i r) ∧ w.Inv ep s' (co.release o) (l.reply i r) ∧
      w.Grows k s co l s' (co.release o) (l.reply i r) := by
  have hsettled := hb.conclude hout ho hs' r
  have hlt : i < l.sent.length := (List.getElem?_eq_some_iff.1 hout.1).1
  exact ⟨hsettled, ⟨h.endpoints, ⟨hw, (h.sound.reply hlt r).replies_lt⟩, .inr ⟨hsettled, rfl⟩⟩,
    Grows.conclude hb hout ho s' r⟩

/-- The store holds the old pair, or the wave settled and it holds what the wave left. -/
theorem Inv.get {ep : Endpoints} (h : w.Inv ep s co l) :
    s.get = .ok (some w.old) ∨ (w.Settled s co l ∧ co.refreshing = false ∧ s.get = .ok w.stored) := by
  rcases h.phase with hb | ⟨hs, hr⟩
  · exact .inl hb.stored
  · exact .inr ⟨hs, hr, hs.stored⟩

/-- Task `k` sends a request elsewhere than the refresh path: it is out, and `k` has sent one
more. -/
theorem Inv.send_own {ep : Endpoints} (h : w.Inv ep s co l) (hq : q.target ≠ w.endpoints.refresh)
    (k : Nat) :
    w.Inv ep s co (l.send k q) ∧ (l.send k q).Out k q l.sent.length ∧
      (l.send k q).sentBy k w.endpoints.refresh = l.sentBy k w.endpoints.refresh + 1 ∧
      w.Grows k s co l s co (l.send k q) :=
  ⟨h.send hq k, Ledger.out_send h.sound.replies_lt, Ledger.sentBy_send_self hq, Grows.send h.sound hq⟩

theorem Inv.readable {ep : Endpoints} (h : w.Inv ep s co l) : ∃ p, s.get = .ok p := by
  rcases h.get with hold | ⟨-, -, hs⟩
  · exact ⟨_, hold⟩
  · exact ⟨_, hs⟩

/-- An outcome went out, so the wave has settled. -/
theorem Inv.settled_of_outcome {ep : Endpoints} {t : Nat} {o : RenewalOutcome} (h : w.Inv ep s co l)
    (ho : co.outcome? t = some o) : w.Settled s co l := by
  rcases h.phase with hb | ⟨hs, -⟩
  · simp [Coordinator.outcome?, hb.quiet] at ho
  · exact hs

/-- At most one renewal call was made, the wave's. -/
theorem Inv.calls {ep : Endpoints} (h : w.Inv ep s co l) :
    l.callsTo w.endpoints.refresh = [] ∨ l.callsTo w.endpoints.refresh = [w.call] := by
  rcases h.phase with hb | ⟨hs, -⟩
  · exact hb.calls.imp_right And.left
  · exact .inr hs.calls

/-- A new client holds what holds between steps. -/
theorem Inv.init (w : Wave) :
    w.Inv w.endpoints w.first {} {} := by
  refine ⟨rfl, ⟨.refl, by simp⟩, .inl ⟨w.first_get, rfl, .inl rfl, by simp⟩⟩

end Wave

end Client

end BearerSession
