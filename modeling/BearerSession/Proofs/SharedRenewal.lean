import BearerSession.Proofs.Wave

/-!
# Requests that share one renewal

Callers send requests through one client at once, their steps in any order, none of them
dropped. The store holds a pair `old`. The backend refuses with a 401 every request that does
not present the access token of a pair `new`, serves every one that does, and answers the
renewal call with `new`. Then at most one renewal call is made, with the old refresh token;
every request is answered with a success obtained with the new access token, and goes out at
most twice; and once every request has its answer the renewal call was made and the store
holds `new` (`Pool.renewed_wave_serves_every_request`).

The argument follows each request along its path. Until the wave settles the old pair is
stored, and the one renewal call made, if any, is out while the wave runs. Once it settled the
new pair is stored and every follower was sent the new access token; no wave starts again, since
a refused request was refused the old token and the store no longer holds it.
`Wave.RenewedAt` says what holds of a request at each point of its path; a move of one request
carries it along for that request and keeps it for every other (`Wave.renewedInvariant`).
-/

namespace BearerSession.Client

variable {ν φ : Type}

/-- The backend's answer to the renewal call that renews to `new`: a success whose body is
`new`. -/
def RenewalAnswer (new : Pair) (resp : Http.Response) : Prop :=
  resp.isSuccess = true ∧ resp.decode (Pair.reader "TokenPairResponse") = .ok new

/-- Task `k` has the answer `r`: a success, the reply on the ledger to a request of `k` that
presented the access token of `new`. -/
def Ledger.Served (l : Ledger) (new : Pair) (k : Nat) (r : Reply) : Prop :=
  ∃ resp i q, r = .ok resp ∧ resp.isSuccess = true ∧ l.sent[i]? = some (k, q) ∧
    q.headerValue? "Authorization" = some new.access.bearer ∧ (i, .ok resp) ∈ l.replies

theorem Ledger.Served.extends {l l' : Ledger} {new : Pair} {k : Nat} {r : Reply}
    (h : l.Served new k r) (hl : l.Extends l') : l'.Served new k r := by
  obtain ⟨resp, i, q, hr, hs, hi, hb, hmem⟩ := h
  exact ⟨resp, i, q, hr, hs, hl.getElem? hi, hb, hl.2.subset hmem⟩

/-- The wave `w` renews its old pair to `new`: it leaves `new` stored, sends the new access
token to every follower, and the new access token is not the old one. -/
structure Wave.RenewsTo (w : Wave) (new : Pair) : Prop where
  stored : w.stored = some new
  outcome : ∀ o, w.Outcome o ↔ o = .ok new.access
  fresh : new.access ≠ w.old.access

namespace Wave

variable (w : Wave) (new : Pair)

/-- Where a request of task `k` making `q` stands in a wave renewed to `new`, at each point of
its path. It has not yet gone out; its first attempt is out with the old token, or with the new
one once the wave settled; refused, it was refused the old token; it follows the wave; it
leads it, before or after sending the renewal call; it holds the new access token; its replay
with the new token is out; or it is served. Each point counts what the task sent. -/
def RenewedAt (k : Nat) (q : Http.Request) : Point → Client (ν × Ledger) → Prop
  | .start, c => w.Inv c.endpoints c.store c.coordinator c.net.2 ∧
      c.net.2.sentBy k w.endpoints.refresh = 0
  | .first tok i, c =>
      (tok = some w.old.access ∨ (tok = some new.access ∧ w.Settled c.store c.coordinator c.net.2)) ∧
      c.net.2.Out k (q.bearing tok) i ∧ c.net.2.sentBy k w.endpoints.refresh = 1
  | .refused tok, c => w.Inv c.endpoints c.store c.coordinator c.net.2 ∧ tok = some w.old.access ∧
      c.net.2.sentBy k w.endpoints.refresh = 1
  | .following t, c => w.Follows c.coordinator t ∧ c.net.2.sentBy k w.endpoints.refresh = 1
  | .electing, c => w.Inv c.endpoints c.store c.coordinator c.net.2 ∧
      c.coordinator.refreshing = true ∧ c.net.2.callsTo w.endpoints.refresh = [] ∧
      c.net.2.sentBy k w.endpoints.refresh = 1
  | .leading i, c => w.Before c.store c.coordinator c.net.2 ∧ c.coordinator.refreshing = true ∧
      c.net.2.Out k w.call i ∧ c.net.2.sentBy k w.endpoints.refresh = 1
  | .fresh tok, c => w.Inv c.endpoints c.store c.coordinator c.net.2 ∧
      w.Settled c.store c.coordinator c.net.2 ∧ tok = new.access ∧
      c.net.2.sentBy k w.endpoints.refresh = 1
  | .replay i, c => w.Settled c.store c.coordinator c.net.2 ∧
      c.net.2.Out k (q.retried.withBearer new.access) i ∧ c.net.2.sentBy k w.endpoints.refresh = 2
  | .done r, c => c.net.2.Served new k r ∧ w.Settled c.store c.coordinator c.net.2 ∧
      c.net.2.sentBy k w.endpoints.refresh ≤ 2

variable {w new} (hw : w.RenewsTo new) {k : Nat} {q : Http.Request}
  (hq : q.target ≠ w.endpoints.refresh)

include hw in
/-- The store holds the old access token, or the wave settled and it holds the new one. -/
theorem Inv.accessToken_of_renews {ep : Endpoints} {s : Store} {co : Coordinator} {l : Ledger}
    (h : w.Inv ep s co l) :
    (w.Before s co l ∧ s.accessToken = .ok (some w.old.access)) ∨
      (w.Settled s co l ∧ co.refreshing = false ∧ s.accessToken = .ok (some new.access)) := by
  rcases h.phase with hb | ⟨hs, hr⟩
  · exact .inl ⟨hb, Store.accessToken_of_get hb.stored⟩
  · exact .inr ⟨hs, hr, by rw [Store.accessToken_of_get hs.stored, hw.stored]; rfl⟩

/-! ### Moves of a request in a renewed wave -/

section Moves

variable {c : Client (ν × Ledger)}

include hw hq in
/-- The first attempt goes with the stored token: the old one, or the new one once the wave
settled. -/
theorem renewed_send {tok : Option AccessToken} (n : ν) (hread : c.store.accessToken = .ok tok)
    (hat : w.RenewedAt new k q .start c) :
    let c' : Client (ν × Ledger) := { c with net := (n, c.net.2.send k (q.bearing tok)) }
    w.Inv c'.endpoints c'.store c'.coordinator c'.net.2 ∧
      w.RenewedAt new k q (.first tok c.net.2.sent.length) c' ∧
      w.Grows k c.store c.coordinator c.net.2 c'.store c'.coordinator c'.net.2 := by
  obtain ⟨hinv, hsent⟩ := hat
  have hq' : (q.bearing tok).target ≠ w.endpoints.refresh := by simpa using hq
  obtain ⟨hinv', hout, hsent', hg⟩ := hinv.send_own hq' k
  refine ⟨hinv', ⟨?_, hout, by rw [hsent', hsent]⟩, hg⟩
  rcases hinv.accessToken_of_renews hw with ⟨-, hold⟩ | ⟨hs, -, hnew⟩
  · exact .inl (Except.ok.inj (hread.symm.trans hold))
  · exact .inr ⟨Except.ok.inj (hread.symm.trans hnew), hs.send hq' k⟩

include hw hq in
/-- The first attempt is answered: refused with a 401 when it carried the old token, served
when it carried the new one. -/
theorem renewed_answer {tok : Option AccessToken} {i : Nat} {q' : Http.Request} (n : ν) (r : Reply)
    (hi : c.net.2.sent[i]? = some (k, q')) (ha : Backend w.endpoints new.access (RenewalAnswer new) q' r)
    (hinv : w.Inv c.endpoints c.store c.coordinator c.net.2)
    (hat : w.RenewedAt new k q (.first tok i) c) :
    let c' : Client (ν × Ledger) := { c with net := (n, c.net.2.reply i r) }
    w.Inv c'.endpoints c'.store c'.coordinator c'.net.2 ∧ w.RenewedAt new k q (.ofFirst tok r) c' ∧
      w.Grows k c.store c.coordinator c.net.2 c'.store c'.coordinator c'.net.2 := by
  obtain ⟨htok, hout, hsent⟩ := hat
  obtain ⟨-, rfl⟩ := Prod.mk.inj (hout.entry hi)
  have hq' : (q.bearing tok).target ≠ w.endpoints.refresh := by simpa using hq
  refine ⟨hinv.reply hi hq' r, ?_, Grows.reply hi rfl hq' r⟩
  rcases htok with rfl | ⟨rfl, hs⟩
  -- the old token is refused
  · obtain ⟨resp, rfl, hunauth⟩ := ha.refuses_bearer hq hw.fresh.symm
    simp only [Point.ofFirst, hunauth, if_true]
    exact ⟨hinv.reply hi hq' _, rfl, hsent⟩
  -- the new token is served
  · have hbearer := Http.Request.headerValue?_withBearer q new.access
    obtain ⟨resp, rfl, hsucc⟩ := ha.serves hq' hbearer
    simp only [Point.ofFirst, Http.Response.isUnauthorized_of_isSuccess hsucc, Bool.false_eq_true,
      if_false, Http.Response.intoResult_of_isSuccess hsucc]
    refine ⟨⟨resp, i, _, rfl, hsucc, hi, hbearer, by simp [Ledger.reply]⟩, hs.reply i _, by simp [hsent]⟩

/-- Refused while the wave runs, a request follows it with a new ticket. -/
theorem renewed_follow {tok : Option AccessToken} (hr : c.coordinator.refreshing = true)
    (hat : w.RenewedAt new k q (.refused tok) c) :
    let c' : Client (ν × Ledger) := { c with coordinator := c.coordinator.enqueue.1 }
    w.Inv c'.endpoints c'.store c'.coordinator c'.net.2 ∧
      w.RenewedAt new k q (.following c.coordinator.issued) c' ∧
      w.Grows k c.store c.coordinator c.net.2 c'.store c'.coordinator c'.net.2 := by
  obtain ⟨hinv, -, hsent⟩ := hat
  rcases hinv.phase with hb | ⟨-, hr'⟩
  · exact ⟨⟨hinv.endpoints, hinv.sound, .inl hb.enqueue⟩, ⟨hb.follows_issued, hsent⟩, Grows.follow hb⟩
  · rw [hr] at hr'
    cases hr'

include hw in
/-- Refused after the wave settled, a request takes the new access token. -/
theorem renewed_settled {tok : Option AccessToken} {cur : AccessToken}
    (hread : c.store.accessToken = .ok (some cur)) (hne : some cur ≠ tok)
    (hat : w.RenewedAt new k q (.refused tok) c) : w.RenewedAt new k q (.fresh cur) c := by
  obtain ⟨hinv, rfl, hsent⟩ := hat
  rcases hinv.accessToken_of_renews hw with ⟨-, hold⟩ | ⟨hs, -, hnew⟩
  · rw [hread] at hold
    exact absurd (congrArg some (Option.some.inj (Except.ok.inj hold))) hne
  · exact ⟨hinv, hs, Option.some.inj (Except.ok.inj (hread.symm.trans hnew)), hsent⟩

include hw in
/-- Refused with no wave running, a request leads a new wave only before the wave settled. -/
theorem renewed_elect {tok : Option AccessToken} (hr : c.coordinator.refreshing = false)
    (hread : c.store.accessToken = .ok tok ∨ c.store.accessToken = .ok none)
    (hat : w.RenewedAt new k q (.refused tok) c) :
    let c' : Client (ν × Ledger) := { c with coordinator := { c.coordinator with refreshing := true } }
    w.RenewedAt new k q .electing c' ∧
      w.Grows k c.store c.coordinator c.net.2 c'.store c'.coordinator c'.net.2 := by
  obtain ⟨hinv, rfl, hsent⟩ := hat
  rcases hinv.accessToken_of_renews hw with ⟨hb, -⟩ | ⟨-, -, hnew⟩
  · exact ⟨⟨⟨hinv.endpoints, hinv.sound, .inl hb.elect⟩, rfl, hb.calls_nil hr, hsent⟩, Grows.elect⟩
  -- the store holds the new token, neither refused nor missing
  · rcases hread with hread | hread <;> rw [hread] at hnew <;> simp at hnew
    exact (hw.fresh.symm hnew).elim

/-- The leader sends the renewal call with the old refresh token. -/
theorem renewed_renew {t : RefreshToken} (n : ν) (hread : c.store.refreshToken = .ok (some t))
    (hat : w.RenewedAt new k q .electing c) :
    let c' : Client (ν × Ledger) :=
      { c with net := (n, c.net.2.send k (c.endpoints.refreshRequest t)) }
    w.Inv c'.endpoints c'.store c'.coordinator c'.net.2 ∧
      w.RenewedAt new k q (.leading c.net.2.sent.length) c' ∧
      w.Grows k c.store c.coordinator c.net.2 c'.store c'.coordinator c'.net.2 := by
  obtain ⟨hinv, hr, hnil, hsent⟩ := hat
  rcases hinv.phase with hb | ⟨-, hr'⟩
  · simp only [hb.renew_call hinv.endpoints hread]
    have hb' := hb.renew hinv.sound hnil hr k
    refine ⟨⟨hinv.endpoints, hinv.sound.send k _, .inl hb'⟩,
      ⟨hb', hr, Ledger.out_send hinv.sound.replies_lt, ?_⟩, Grows.renew hb hnil⟩
    rw [Ledger.sentBy_send_of_eq w.call_target, hsent]
  · rw [hr] at hr'
    cases hr'

include hw in
/-- The renewal call is answered with `new`: the pair is stored, the wave settles, and every
follower is sent the new access token. -/
theorem renewed_conclude {c₁ : Client (ν × Ledger)} {i : Nat} {q' : Http.Request}
    {o : RenewalOutcome} (n : ν) (r : Reply) (hi : c.net.2.sent[i]? = some (k, q'))
    (ha : Backend w.endpoints new.access (RenewalAnswer new) q' r)
    (hc : conclude r { c with net := (n, c.net.2.reply i r) } = (c₁, o))
    (hinv : w.Inv c.endpoints c.store c.coordinator c.net.2)
    (hat : w.RenewedAt new k q (.leading i) c) :
    w.Inv (c₁.settle o).endpoints (c₁.settle o).store (c₁.settle o).coordinator (c₁.settle o).net.2 ∧
      w.RenewedAt new k q (.ofOutcome o) (c₁.settle o) ∧
      w.Grows k c.store c.coordinator c.net.2 (c₁.settle o).store (c₁.settle o).coordinator
        (c₁.settle o).net.2 := by
  obtain ⟨hb, -, hout, hsent⟩ := hat
  obtain ⟨-, rfl⟩ := Prod.mk.inj (hout.entry hi)
  obtain ⟨resp, rfl, hsucc, hdec⟩ := ha.renews w.call_target
  -- the store keeps the new pair
  have hset : ({ c with net := (n, c.net.2.reply i (.ok resp)) }.store.set new).2 = .ok () :=
    w.faithful.set_ok hinv.sound.written new
  rw [conclude_of_pair hsucc hdec hset, Prod.mk.injEq] at hc
  obtain ⟨rfl, rfl⟩ := hc
  have hstored : (c.store.set new).1.get = .ok w.stored := by
    rw [hw.stored]
    exact ((w.faithful _ hinv.sound.written).1 new).2
  obtain ⟨hsettled, hinv', hg⟩ := hinv.conclude hb hout ((hw.outcome _).2 rfl)
    (.set new hinv.sound.written) hstored (.ok resp)
  exact ⟨hinv', ⟨hinv', hsettled, rfl, by simp [hsent]⟩, hg⟩

include hw in
/-- A follower reads the new access token once the wave settled. -/
theorem renewed_receive {t : Nat} {o : RenewalOutcome} (ho : c.coordinator.outcome? t = some o)
    (hinv : w.Inv c.endpoints c.store c.coordinator c.net.2)
    (hat : w.RenewedAt new k q (.following t) c) : w.RenewedAt new k q (.ofOutcome o) c := by
  obtain ⟨hf, hsent⟩ := hat
  rw [(hw.outcome o).1 (hf.allowed ho)]
  exact ⟨hinv, hinv.settled_of_outcome ho, rfl, hsent⟩

include hq in
/-- With the new access token the request goes once more. -/
theorem renewed_resend {tok : AccessToken} (n : ν) (hat : w.RenewedAt new k q (.fresh tok) c) :
    let c' : Client (ν × Ledger) := { c with net := (n, c.net.2.send k (q.retried.withBearer tok)) }
    w.Inv c'.endpoints c'.store c'.coordinator c'.net.2 ∧
      w.RenewedAt new k q (.replay c.net.2.sent.length) c' ∧
      w.Grows k c.store c.coordinator c.net.2 c'.store c'.coordinator c'.net.2 := by
  obtain ⟨hinv, hs, rfl, hsent⟩ := hat
  have hq' : (q.retried.withBearer new.access).target ≠ w.endpoints.refresh := by simpa using hq
  obtain ⟨hinv', hout, hsent', hg⟩ := hinv.send_own hq' k
  exact ⟨hinv', ⟨hs.send hq' k, hout, by rw [hsent', hsent]⟩, hg⟩

include hq in
/-- The replay presents the new access token and is served. -/
theorem renewed_reanswer {i : Nat} {q' : Http.Request} (n : ν) (r : Reply)
    (hi : c.net.2.sent[i]? = some (k, q')) (ha : Backend w.endpoints new.access (RenewalAnswer new) q' r)
    (hinv : w.Inv c.endpoints c.store c.coordinator c.net.2)
    (hat : w.RenewedAt new k q (.replay i) c) :
    let c' : Client (ν × Ledger) := { c with net := (n, c.net.2.reply i r) }
    w.Inv c'.endpoints c'.store c'.coordinator c'.net.2 ∧
      w.RenewedAt new k q (.done (r.bind Http.Response.intoResult)) c' ∧
      w.Grows k c.store c.coordinator c.net.2 c'.store c'.coordinator c'.net.2 := by
  obtain ⟨hs, hout, hsent⟩ := hat
  obtain ⟨-, rfl⟩ := Prod.mk.inj (hout.entry hi)
  have hq' : (q.retried.withBearer new.access).target ≠ w.endpoints.refresh := by simpa using hq
  have hbearer := Http.Request.headerValue?_withBearer q.retried new.access
  obtain ⟨resp, rfl, hsucc⟩ := ha.serves hq' hbearer
  refine ⟨hinv.reply hi hq' _, ⟨?_, hs.reply i _, by simp [hsent]⟩, Grows.reply hi rfl hq' _⟩
  simp only [Except.bind, Http.Response.intoResult_of_isSuccess hsucc]
  exact ⟨resp, i, _, rfl, hsucc, hi, hbearer, by simp [Ledger.reply]⟩

end Moves

/-- A request goes out at most twice: its first attempt and its replay. -/
theorem RenewedAt.sentBy_le {x : Point} {c : Client (ν × Ledger)} (h : w.RenewedAt new k q x c) :
    c.net.2.sentBy k w.endpoints.refresh ≤ 2 := by
  cases x <;> simp only [RenewedAt] at h <;> omega

/-! ### The invariant -/

include hw in
/-- The store can be read: it holds the old pair or the new one. -/
theorem Inv.get_some {ep : Endpoints} {s : Store} {co : Coordinator} {l : Ledger}
    (h : w.Inv ep s co l) : ∃ p, s.get = .ok (some p) := by
  rcases h.get with hold | ⟨-, -, hnew⟩
  · exact ⟨_, hold⟩
  · exact ⟨new, by rw [hnew, hw.stored]⟩

/-- Every request of a run sent with renewal on, as a wave renewed to `new` sees it. -/
def renewedInvariant (hw : w.RenewsTo new) :
    RequestInvariant ν (Backend w.endpoints new.access (RenewalAnswer new))
      (fun q => q.target ≠ w.endpoints.refresh) where
  Inv c := w.Inv c.endpoints c.store c.coordinator c.net.2
  At := w.RenewedAt new
  Rely := w.Rely
  rely_refl := Rely.refl w
  rely_trans := @Rely.trans _ w
  begin := fun hinv _ hnone => ⟨hinv, Ledger.sentBy_eq_zero hnone⟩
  advance := fun {k q y y'} hq hinv hat h => by
    cases h with
    | unread hread =>
      obtain ⟨p, hp⟩ := hat.1.readable
      rw [Store.accessToken_of_get hp] at hread
      cases hread
    | @wait c x n =>
      refine ⟨hinv, ?_, Grows.refl _ _ _ _⟩
      cases x <;> exact hat
    | send n hread =>
      obtain ⟨hinv', hat', hg⟩ := renewed_send hw hq n hread hat
      exact ⟨fun _ => hinv', hat', hg⟩
    | answer n r hi ha =>
      obtain ⟨hinv', hat', hg⟩ := renewed_answer hw hq n r hi ha (hinv trivial) hat
      exact ⟨fun _ => hinv', hat', hg⟩
    | follow hr =>
      obtain ⟨hinv', hat', hg⟩ := renewed_follow hr hat
      exact ⟨fun _ => hinv', hat', hg⟩
    | joinUnread _ hread =>
      obtain ⟨p, hp⟩ := hat.1.readable
      rw [Store.accessToken_of_get hp] at hread
      cases hread
    | settled _ hread hne =>
      exact ⟨fun h => False.elim h, renewed_settled hw hread hne hat, Grows.refl _ _ _ _⟩
    | elect hr hread =>
      obtain ⟨hat', hg⟩ := renewed_elect hw hr hread hat
      exact ⟨fun h => False.elim h, hat', hg⟩
    | unrenewable hread =>
      obtain ⟨p, hp⟩ := hat.1.get_some hw
      rw [Store.refreshToken_of_get hp] at hread
      rcases hread with ⟨hread, -⟩ | ⟨err, hread, -⟩ <;> cases hread
    | renew n hread =>
      obtain ⟨hinv', hat', hg⟩ := renewed_renew n hread hat
      exact ⟨fun _ => hinv', hat', hg⟩
    | conclude n r hi ha hc =>
      obtain ⟨hinv', hat', hg⟩ := renewed_conclude hw n r hi ha hc (hinv trivial) hat
      exact ⟨fun _ => hinv', hat', hg⟩
    | receive ho =>
      exact ⟨fun _ => hinv trivial, renewed_receive hw ho (hinv trivial) hat, Grows.refl _ _ _ _⟩
    | resend n =>
      obtain ⟨hinv', hat', hg⟩ := renewed_resend hq n hat
      exact ⟨fun _ => hinv', hat', hg⟩
    | reanswer n r hi ha =>
      obtain ⟨hinv', hat', hg⟩ := renewed_reanswer hq n r hi ha (hinv trivial) hat
      exact ⟨fun _ => hinv', hat', hg⟩
  stable := fun {k j q y c c'} hjk hg hy hat => by
    cases y with
    | first tok i =>
      obtain ⟨htok, hout, hsent⟩ := hat
      exact ⟨htok.imp_right (And.imp_right hg.settled), hg.out j hjk _ i hout,
        (hg.sentBy j hjk).trans hsent⟩
    | following t =>
      exact ⟨hg.follows t hat.1, (hg.sentBy j hjk).trans hat.2⟩
    | leading i =>
      obtain ⟨hb, hr, hout, hsent⟩ := hat
      obtain ⟨hb', hr'⟩ := hg.leading j hjk i hb hr hout
      exact ⟨hb', hr', hg.out j hjk _ i hout, (hg.sentBy j hjk).trans hsent⟩
    | replay i =>
      obtain ⟨hs, hout, hsent⟩ := hat
      exact ⟨hg.settled hs, hg.out j hjk _ i hout, (hg.sentBy j hjk).trans hsent⟩
    | done r =>
      obtain ⟨hserved, hs, hsent⟩ := hat
      exact ⟨hserved.extends hg.grows, hg.settled hs, (hg.sentBy j hjk).trans_le hsent⟩
    | start | refused _ | electing | fresh _ => exact False.elim hy

end Wave

/-! ## Every request of a run -/

/-- **One renewal for a wave of requests.** Over a faithful store holding `old`, and a backend
that serves exactly the requests presenting the access token of `new` and answers the renewal
call with `new`, any run of requests with renewal on, in any order of their steps, makes at most
the one renewal call with the old refresh token; sends no request more than twice; answers
every request with a success obtained with the new access token; once every request has its
answer, has made that renewal call and left `new` stored; and can be polled until every
request has its answer. -/
theorem Pool.renewed_wave_serves_every_request {tr : Transport ν φ} {s₀ : Store} {e : Endpoints}
    {n₀ : ν} {old new : Pair} (hs₀ : s₀.Faithful) (hold : s₀.get = .ok (some old))
    (hne : new.access ≠ old.access) (sv : tr.Serves (Backend e new.access (RenewalAnswer new)))
    {acts : List Action} (hacts : ∀ a ∈ acts, a.Requests (·.target ≠ e.refresh)) :
    let p := (Pool.init s₀ e n₀ : Pool ν φ).run tr acts
    (p.client.net.2.callsTo e.refresh = [] ∨
      p.client.net.2.callsTo e.refresh = [e.refreshRequest old.refresh]) ∧
    (∀ k, p.client.net.2.sentBy k e.refresh ≤ 2) ∧
    (∀ k r, p.tasks[k]? = some (.replied r) → p.client.net.2.Served new k r) ∧
    (p.tasks ≠ [] → p.Answered →
      p.client.net.2.callsTo e.refresh = [e.refreshRequest old.refresh] ∧
        p.client.store.get = .ok (some new)) ∧
    ∃ is : List Nat, (p.run tr (is.map .poll)).Answered := by
  intro p
  -- the wave that renews `old` to `new`
  let w : Wave := ⟨s₀, e, old, some new, (· = .ok new.access), hs₀, hold,
    fun h => hne (congrArg Pair.access (Option.some.inj h))⟩
  have hw : w.RenewsTo new := ⟨rfl, fun _ => Iff.rfl, hne⟩
  let I : RequestInvariant ν _ _ := Wave.renewedInvariant hw
  have hp : I.Holds sv.request p :=
    RequestInvariant.Holds.run I sv (RequestInvariant.Holds.init I sv (Wave.Inv.init w)) hacts
  have hr : p.Reachable tr := (Pool.Reachable.init s₀ e n₀).run acts
  refine ⟨Wave.Inv.calls hp.inv, fun k => ?_, fun k r hk => ?_, fun hnil hall => ?_,
    RequestInvariant.Holds.answered I sv hp hr⟩
  -- a task sends at most twice, and no request on the ledger is of a task that does not exist
  · by_cases hk : k < p.tasks.length
    · obtain ⟨q, -, -, -, hat, -⟩ := hp.tasks k _ (List.getElem?_eq_getElem hk)
      exact Wave.RenewedAt.sentBy_le hat
    · have hzero : p.client.net.2.sentBy k e.refresh = 0 :=
        Ledger.sentBy_eq_zero fun x hx => by
          have := hp.owners x hx
          omega
      omega
  · obtain ⟨q, -, -, -, hat, -⟩ := hp.tasks k _ hk
    exact hat.1
  -- an answered task finds the wave settled
  · obtain ⟨t, ht⟩ := List.exists_mem_of_ne_nil p.tasks hnil
    obtain ⟨r, rfl⟩ := hall t ht
    obtain ⟨k, hk⟩ := List.mem_iff_getElem?.1 ht
    obtain ⟨q, -, -, -, hat, -⟩ := hp.tasks k _ hk
    exact ⟨hat.2.1.calls, hat.2.1.stored⟩

end BearerSession.Client
