import BearerSession.Proofs.SharedRenewal

/-!
# Requests whose renewal is refused

Callers send requests through one client at once, their steps in any order, none of them
dropped, and none presenting on its own the token the backend accepts. The store holds a pair
`old`. The backend refuses with a 401 every request that does not present the access token
`fresh`, other than `old`'s, and answers the renewal call with a status `st` outside 2xx. Then at
most the one renewal call is made, with the old refresh token; no request goes out more than
once; and every request fails and ends the session. A request whose first attempt was refused
before the renewal call had its reply, the leader and the followers of the wave, fails with the
refusal of the renewal and status `st`; one refused after fails with `noRefreshToken`. Once
every request has its answer the store is empty (`Pool.failed_wave_ends_every_request`).

The reply to the renewal call clears the store and sends its refusal to every follower. A request
refused after that finds no token stored, leads a wave of its own, has no refresh token to send,
and fails at once, leaving the store as empty as it found it. Whether a first attempt was
refused before or after is read off the order of the replies on the ledger
(`Ledger.RepliedBefore`, `Ledger.RepliedAfter`); `Wave.FailedAt` says what holds of a request at
each point of its path.

`Pool.requests_share_one_renewal` puts the two endings of a wave together.
-/

namespace BearerSession.Client

variable {ν φ : Type}

namespace Ledger

variable {l l' : Ledger} {path : String} {i : Nat}

/-- The reply to the request at place `i` came before any reply to a request to `path`. -/
def RepliedBefore (l : Ledger) (path : String) (i : Nat) : Prop :=
  ∃ pre r, pre ++ [(i, r)] <+: l.replies ∧
    ∀ ir ∈ pre, ∃ x, l.sent[ir.1]? = some x ∧ x.2.target ≠ path

/-- The reply to the request at place `i` came after a reply to a request to `path`. -/
def RepliedAfter (l : Ledger) (path : String) (i : Nat) : Prop :=
  ∃ pre r, pre ++ [(i, r)] <+: l.replies ∧ ∃ ir ∈ pre, l.target? ir.1 = some path

theorem RepliedBefore.extends (h : l.RepliedBefore path i) (hl : l.Extends l') :
    l'.RepliedBefore path i := by
  obtain ⟨pre, r, hpre, hall⟩ := h
  refine ⟨pre, r, hpre.trans hl.2, fun ir hir => ?_⟩
  obtain ⟨x, hx, ht⟩ := hall ir hir
  exact ⟨x, hl.getElem? hx, ht⟩

theorem RepliedAfter.extends (h : l.RepliedAfter path i) (hl : l.Extends l') :
    l'.RepliedAfter path i := by
  obtain ⟨pre, r, hpre, ir, hir, ht⟩ := h
  exact ⟨pre, r, hpre.trans hl.2, ir, hir, hl.target? ht⟩

end Ledger

namespace Wave

variable (w : Wave)

/-- The wave ends on the refusal of the renewal call with the status `st`, outside 2xx: it
leaves the store empty and sends its followers that refusal. -/
structure FailsWith (st : Nat) : Prop where
  stored : w.stored = none
  outcome : ∀ o, w.Outcome o ↔ ∃ m, o = .error (.refused ⟨some st, m⟩)
  rejected : st < 200 ∨ 300 ≤ st

/-- Task `k`'s first attempt was refused before the renewal call had its reply. -/
def RefusedEarly (l : Ledger) (k : Nat) : Prop :=
  ∃ i q, l.sent[i]? = some (k, q) ∧ l.RepliedBefore w.endpoints.refresh i

/-- Task `k`'s first attempt was refused after the renewal call had its reply. -/
def RefusedLate (l : Ledger) (k : Nat) : Prop :=
  ∃ i q, l.sent[i]? = some (k, q) ∧ l.RepliedAfter w.endpoints.refresh i

variable {w} {s : Store} {co : Coordinator} {l l' : Ledger} {k i : Nat} {q : Http.Request}

theorem RefusedEarly.extends (h : w.RefusedEarly l k) (hl : l.Extends l') : w.RefusedEarly l' k := by
  obtain ⟨i, q, hi, hb⟩ := h
  exact ⟨i, q, hl.getElem? hi, hb.extends hl⟩

theorem RefusedLate.extends (h : w.RefusedLate l k) (hl : l.Extends l') : w.RefusedLate l' k := by
  obtain ⟨i, q, hi, ha⟩ := h
  exact ⟨i, q, hl.getElem? hi, ha.extends hl⟩

/-- A reply put down before the wave settled comes before any reply to a renewal call. -/
theorem Before.refusedEarly (hb : w.Before s co l) (hs : w.Sound s l) (hi : l.sent[i]? = some (k, q))
    (r : Reply) : w.RefusedEarly (l.reply i r) k := by
  refine ⟨i, q, hi, l.replies, r, by simp, fun ir hir => ?_⟩
  have hlt := hs.replies_lt ir hir
  have hx : l.sent[ir.1]? = some l.sent[ir.1] := List.getElem?_eq_getElem hlt
  exact ⟨_, hx, fun ht => hb.unanswered ir hir (by rw [Ledger.target?_of_getElem? hx, ht])⟩

/-- A reply put down after the wave settled comes after the reply to its renewal call. -/
theorem Settled.refusedLate (hs : w.Settled s co l) (hi : l.sent[i]? = some (k, q)) (r : Reply) :
    w.RefusedLate (l.reply i r) k := by
  obtain ⟨ir, hir, ht⟩ := hs.answered
  exact ⟨i, q, hi, l.replies, r, by simp, ir, hir, ht⟩

variable {st : Nat} (hw : w.FailsWith st)

include hw in
/-- A wave that settled on its failure, ended again with nobody following and the store cleared
again, stays settled. -/
theorem Settled.clear (hs : w.Settled s co l) (hsound : w.Sound s l) (o : RenewalOutcome) :
    w.Settled s.clear.1 (co.release o) l where
  stored := by
    rw [hw.stored]
    exact (w.faithful _ hsound.written).2.2
  waiters := rfl
  outcomes := fun d hd => by
    simp only [Coordinator.release_delivered, hs.waiters, List.map_nil, List.append_nil] at hd
    exact hs.outcomes d hd
  calls := hs.calls
  answered := hs.answered

include hw in
/-- Task `k` ends a wave at once, the wave it failed with having settled: nobody follows, and
the cleared store stays empty. -/
theorem Grows.clear (hs : w.Settled s co l) (hsound : w.Sound s l) (o : RenewalOutcome) :
    w.Grows k s co l s.clear.1 (co.release o) l where
  grows := .refl l
  out := fun _ _ _ _ h => h
  sentBy := fun _ _ => rfl
  follows := fun _ h => h.release_quiet hs.waiters
  settled := fun _ => hs.clear hw hsound o
  leading := fun _ _ _ hb _ _ => absurd hs hb.not_settled

include hw in
/-- The store holds the old access token, or the wave settled and it is empty. -/
theorem Inv.accessToken_of_fails {ep : Endpoints} (h : w.Inv ep s co l) :
    (w.Before s co l ∧ s.accessToken = .ok (some w.old.access)) ∨
      (w.Settled s co l ∧ co.refreshing = false ∧ s.accessToken = .ok none) := by
  rcases h.phase with hb | ⟨hs, hr⟩
  · exact .inl ⟨hb, Store.accessToken_of_get hb.stored⟩
  · exact .inr ⟨hs, hr, by rw [Store.accessToken_of_get hs.stored, hw.stored]; rfl⟩

variable (w st)

/-- Where a request of task `k` making `q` stands in a wave whose renewal is refused with the
status `st`, at each point of its path. It has not yet gone out; its first attempt is out with
the old token, or with none once the wave settled; refused, before the wave settled with the old
token or after it; it follows the wave; it leads it, before or after sending the renewal call,
or leads a wave of its own after the first settled; it is answered with the failure that matches
when it was refused. A request never holds a fresh token. Each point counts what the task sent. -/
def FailedAt (k : Nat) (q : Http.Request) : Point → Client (ν × Ledger) → Prop
  | .start, c => w.Inv c.endpoints c.store c.coordinator c.net.2 ∧
      c.net.2.sentBy k w.endpoints.refresh = 0
  | .first tok i, c =>
      (tok = some w.old.access ∨ (tok = none ∧ w.Settled c.store c.coordinator c.net.2)) ∧
      c.net.2.Out k (q.bearing tok) i ∧ c.net.2.sentBy k w.endpoints.refresh = 1
  | .refused tok, c => c.endpoints = w.endpoints ∧ w.Sound c.store c.net.2 ∧
      c.net.2.sentBy k w.endpoints.refresh = 1 ∧
      ((w.Before c.store c.coordinator c.net.2 ∧ tok = some w.old.access ∧
          w.RefusedEarly c.net.2 k) ∨
        (w.Settled c.store c.coordinator c.net.2 ∧ c.coordinator.refreshing = false ∧
          w.RefusedLate c.net.2 k))
  | .following t, c => w.Follows c.coordinator t ∧ c.net.2.sentBy k w.endpoints.refresh = 1 ∧
      w.RefusedEarly c.net.2 k
  | .electing, c => c.endpoints = w.endpoints ∧ w.Sound c.store c.net.2 ∧
      c.net.2.sentBy k w.endpoints.refresh = 1 ∧
      ((w.Before c.store c.coordinator c.net.2 ∧ c.coordinator.refreshing = true ∧
          c.net.2.callsTo w.endpoints.refresh = [] ∧ w.RefusedEarly c.net.2 k) ∨
        (w.Settled c.store c.coordinator c.net.2 ∧ w.RefusedLate c.net.2 k))
  | .leading i, c => w.Before c.store c.coordinator c.net.2 ∧ c.coordinator.refreshing = true ∧
      c.net.2.Out k w.call i ∧ c.net.2.sentBy k w.endpoints.refresh = 1 ∧ w.RefusedEarly c.net.2 k
  | .fresh _, _ => False
  | .replay _, _ => False
  | .done r, c => w.Settled c.store c.coordinator c.net.2 ∧ c.net.2.sentBy k w.endpoints.refresh = 1 ∧
      ((w.RefusedEarly c.net.2 k ∧ ∃ m, r = .error (.refreshFailed ⟨some st, m⟩)) ∨
        (w.RefusedLate c.net.2 k ∧ r = .error .noRefreshToken))

variable {w st} {fresh : AccessToken} (hfresh : fresh ≠ w.old.access)
  (hq : q.target ≠ w.endpoints.refresh) (hown : q.headerValue? "Authorization" ≠ some fresh.bearer)

/-! ### Moves of a request in a refused wave -/

section Moves

variable {c : Client (ν × Ledger)}

include hw hq in
/-- The first attempt goes with the old token, or with none once the wave settled. -/
theorem failed_send {tok : Option AccessToken} (n : ν) (hread : c.store.accessToken = .ok tok)
    (hat : w.FailedAt st k q .start c) :
    let c' : Client (ν × Ledger) := { c with net := (n, c.net.2.send k (q.bearing tok)) }
    w.Inv c'.endpoints c'.store c'.coordinator c'.net.2 ∧
      w.FailedAt st k q (.first tok c.net.2.sent.length) c' ∧
      w.Grows k c.store c.coordinator c.net.2 c'.store c'.coordinator c'.net.2 := by
  obtain ⟨hinv, hsent⟩ := hat
  have hq' : (q.bearing tok).target ≠ w.endpoints.refresh := by simpa using hq
  obtain ⟨hinv', hout, hsent', hg⟩ := hinv.send_own hq' k
  refine ⟨hinv', ⟨?_, hout, by rw [hsent', hsent]⟩, hg⟩
  rcases hinv.accessToken_of_fails hw with ⟨-, hold⟩ | ⟨hs, -, hnone⟩
  · exact .inl (Except.ok.inj (hread.symm.trans hold))
  · exact .inr ⟨Except.ok.inj (hread.symm.trans hnone), hs.send hq' k⟩

include hfresh hq hown in
/-- The first attempt is refused with a 401: it presents the old token or none. It was refused
before the wave settled, or after. -/
theorem failed_answer {tok : Option AccessToken} {q' : Http.Request} (n : ν) (r : Reply)
    (hi : c.net.2.sent[i]? = some (k, q')) (ha : Backend w.endpoints fresh (·.status = st) q' r)
    (hinv : w.Inv c.endpoints c.store c.coordinator c.net.2) (hat : w.FailedAt st k q (.first tok i) c) :
    let c' : Client (ν × Ledger) := { c with net := (n, c.net.2.reply i r) }
    w.Inv c'.endpoints c'.store c'.coordinator c'.net.2 ∧ w.FailedAt st k q (.ofFirst tok r) c' ∧
      w.Grows k c.store c.coordinator c.net.2 c'.store c'.coordinator c'.net.2 := by
  obtain ⟨htok, hout, hsent⟩ := hat
  obtain ⟨-, rfl⟩ := Prod.mk.inj (hout.entry hi)
  have hq' : (q.bearing tok).target ≠ w.endpoints.refresh := by simpa using hq
  -- the backend accepts `fresh` alone, and the request presents the old token or its own header
  have hb : (q.bearing tok).headerValue? "Authorization" ≠ some fresh.bearer := by
    rcases htok with rfl | ⟨rfl, -⟩
    · rw [Http.Request.bearing_some, Http.Request.headerValue?_withBearer, Ne, Option.some.injEq]
      exact fun h => hfresh (AccessToken.bearer_injective h).symm
    · exact hown
  obtain ⟨resp, rfl, hunauth⟩ := ha.refuses hq' hb
  have hinv' := hinv.reply hi hq' (.ok resp)
  simp only [Point.ofFirst, hunauth, if_true]
  refine ⟨hinv', ⟨hinv.endpoints, hinv'.sound, by simp [hsent], ?_⟩, Grows.reply hi rfl hq' _⟩
  rcases hinv.phase with hbefore | ⟨hs, hr⟩
  · have hold : tok = some w.old.access := htok.resolve_right fun h => hbefore.not_settled h.2
    exact .inl ⟨hbefore.reply hi hq' _, hold, hbefore.refusedEarly hinv.sound hi _⟩
  · exact .inr ⟨hs.reply i _, hr, hs.refusedLate hi _⟩

/-- Refused while the wave runs, a request follows it with a new ticket. -/
theorem failed_follow {tok : Option AccessToken} (hr : c.coordinator.refreshing = true)
    (hat : w.FailedAt st k q (.refused tok) c) :
    let c' : Client (ν × Ledger) := { c with coordinator := c.coordinator.enqueue.1 }
    w.Inv c'.endpoints c'.store c'.coordinator c'.net.2 ∧
      w.FailedAt st k q (.following c.coordinator.issued) c' ∧
      w.Grows k c.store c.coordinator c.net.2 c'.store c'.coordinator c'.net.2 := by
  obtain ⟨hep, hsound, hsent, ⟨hb, -, hearly⟩ | ⟨-, hr', -⟩⟩ := hat
  · exact ⟨⟨hep, hsound, .inl hb.enqueue⟩, ⟨hb.follows_issued, hsent, hearly⟩, Grows.follow hb⟩
  · rw [hr] at hr'
    cases hr'

include hw in
/-- A refused request never finds a token other than the one refused: before the wave settled
the old one is stored, after it none. -/
theorem failed_not_settled {tok : Option AccessToken} {cur : AccessToken}
    (hread : c.store.accessToken = .ok (some cur)) (hne : some cur ≠ tok)
    (hat : w.FailedAt st k q (.refused tok) c) : False := by
  obtain ⟨-, -, -, ⟨hb, rfl, -⟩ | ⟨hs, -, -⟩⟩ := hat
  · exact hne (Except.ok.inj ((Store.accessToken_of_get hb.stored).symm.trans hread)).symm
  · rw [Store.accessToken_of_get hs.stored, hw.stored] at hread
    cases hread

/-- Refused with no wave running, a request leads a new wave: the failing wave before it
settled, or a wave of its own after. -/
theorem failed_elect {tok : Option AccessToken} (hr : c.coordinator.refreshing = false)
    (hat : w.FailedAt st k q (.refused tok) c) :
    let c' : Client (ν × Ledger) := { c with coordinator := { c.coordinator with refreshing := true } }
    w.FailedAt st k q .electing c' ∧
      w.Grows k c.store c.coordinator c.net.2 c'.store c'.coordinator c'.net.2 := by
  obtain ⟨hep, hsound, hsent, ⟨hb, -, hearly⟩ | ⟨hs, -, hlate⟩⟩ := hat
  · exact ⟨⟨hep, hsound, hsent, .inl ⟨hb.elect, rfl, hb.calls_nil hr, hearly⟩⟩, Grows.elect⟩
  · exact ⟨⟨hep, hsound, hsent, .inr ⟨hs.elect, hlate⟩⟩, Grows.elect⟩

include hw in
/-- A leader after the wave settled finds no refresh token and fails at once; the store stays
empty and nobody follows. -/
theorem failed_unrenewable {o : RenewalFailure}
    (hread : (c.store.refreshToken = .ok none ∧ o = .noRefreshToken) ∨
      (∃ err : Failure, c.store.refreshToken = .error err ∧
        o = .refused (.noResponse ("could not read stored credentials: " ++ err.message))))
    (hat : w.FailedAt st k q .electing c) :
    let c' := c.settle (.error o)
    w.Inv c'.endpoints c'.store c'.coordinator c'.net.2 ∧
      w.FailedAt st k q (.done (.error o.toFailure)) c' ∧
      w.Grows k c.store c.coordinator c.net.2 c'.store c'.coordinator c'.net.2 := by
  obtain ⟨hep, hsound, hsent, ⟨hb, -, -, -⟩ | ⟨hs, hlate⟩⟩ := hat
  -- before the wave settled the old refresh token is stored
  · rw [Store.refreshToken_of_get hb.stored] at hread
    rcases hread with ⟨h, -⟩ | ⟨err, h, -⟩ <;> cases h
  · rw [Store.refreshToken_of_get hs.stored, hw.stored] at hread
    obtain ⟨-, rfl⟩ := hread.resolve_right (by rintro ⟨_, h, _⟩; cases h)
    have hs' := hs.clear hw hsound (.error .noRefreshToken)
    exact ⟨⟨hep, ⟨.clear hsound.written, hsound.replies_lt⟩, .inr ⟨hs', rfl⟩⟩,
      ⟨hs', hsent, .inr ⟨hlate, rfl⟩⟩, Grows.clear hw hs hsound _⟩

include hw in
/-- The leader sends the renewal call with the old refresh token; after the wave settled there
is none to send. -/
theorem failed_renew {t : RefreshToken} (n : ν) (hread : c.store.refreshToken = .ok (some t))
    (hat : w.FailedAt st k q .electing c) :
    let c' : Client (ν × Ledger) :=
      { c with net := (n, c.net.2.send k (c.endpoints.refreshRequest t)) }
    w.Inv c'.endpoints c'.store c'.coordinator c'.net.2 ∧
      w.FailedAt st k q (.leading c.net.2.sent.length) c' ∧
      w.Grows k c.store c.coordinator c.net.2 c'.store c'.coordinator c'.net.2 := by
  obtain ⟨hep, hsound, hsent, ⟨hb, hr, hnil, hearly⟩ | ⟨hs, -⟩⟩ := hat
  · simp only [hb.renew_call hep hread]
    have hb' := hb.renew hsound hnil hr k
    refine ⟨⟨hep, hsound.send k _, .inl hb'⟩,
      ⟨hb', hr, Ledger.out_send hsound.replies_lt, ?_, hearly.extends Ledger.extends_send⟩,
      Grows.renew hb hnil⟩
    rw [Ledger.sentBy_send_of_eq w.call_target, hsent]
  · rw [Store.refreshToken_of_get hs.stored, hw.stored] at hread
    cases hread

include hw in
/-- The renewal call is refused with `st`: the store is cleared, the wave settles, and every
follower is sent the refusal, as is the leader. -/
theorem failed_conclude {c₁ : Client (ν × Ledger)} {q' : Http.Request} {o : RenewalOutcome}
    (n : ν) (r : Reply) (hi : c.net.2.sent[i]? = some (k, q'))
    (ha : Backend w.endpoints fresh (·.status = st) q' r)
    (hc : conclude r { c with net := (n, c.net.2.reply i r) } = (c₁, o))
    (hinv : w.Inv c.endpoints c.store c.coordinator c.net.2) (hat : w.FailedAt st k q (.leading i) c) :
    w.Inv (c₁.settle o).endpoints (c₁.settle o).store (c₁.settle o).coordinator (c₁.settle o).net.2 ∧
      w.FailedAt st k q (.ofOutcome o) (c₁.settle o) ∧
      w.Grows k c.store c.coordinator c.net.2 (c₁.settle o).store (c₁.settle o).coordinator
        (c₁.settle o).net.2 := by
  obtain ⟨hb, -, hout, hsent, hearly⟩ := hat
  obtain ⟨-, rfl⟩ := Prod.mk.inj (hout.entry hi)
  obtain ⟨resp, rfl, hst⟩ := ha.renews w.call_target
  rw [conclude_of_status (Http.Response.isSuccess_of_status hst hw.rejected), Prod.mk.injEq] at hc
  obtain ⟨rfl, rfl⟩ := hc
  have hallowed := (hw.outcome
    (.error (.refused ⟨some resp.status, resp.reason.getD "renewal rejected"⟩))).2 ⟨_, by rw [hst]⟩
  -- the refusal clears the store
  have hstored : c.store.clear.1.get = .ok w.stored := by
    rw [hw.stored]
    exact (w.faithful _ hinv.sound.written).2.2
  obtain ⟨hsettled, hinv', hg⟩ := hinv.conclude hb hout hallowed (.clear hinv.sound.written) hstored
    (.ok resp)
  refine ⟨hinv', ⟨hsettled, by simp [hsent], .inl ⟨hearly.extends Ledger.extends_reply,
    resp.reason.getD "renewal rejected", by rw [hst]; rfl⟩⟩, hg⟩

include hw in
/-- A follower reads the refusal once the wave settled. -/
theorem failed_receive {t : Nat} {o : RenewalOutcome} (ho : c.coordinator.outcome? t = some o)
    (hinv : w.Inv c.endpoints c.store c.coordinator c.net.2)
    (hat : w.FailedAt st k q (.following t) c) : w.FailedAt st k q (.ofOutcome o) c := by
  obtain ⟨hf, hsent, hearly⟩ := hat
  obtain ⟨m, rfl⟩ := (hw.outcome o).1 (hf.allowed ho)
  exact ⟨hinv.settled_of_outcome ho, hsent, .inl ⟨hearly, m, rfl⟩⟩

end Moves

/-- A request goes out once, its first attempt. -/
theorem FailedAt.sentBy_le {x : Point} {c : Client (ν × Ledger)} (h : w.FailedAt st k q x c) :
    c.net.2.sentBy k w.endpoints.refresh ≤ 1 := by
  cases x <;> simp only [FailedAt] at h <;> omega

/-! ### The invariant -/

/-- Every request of a run sent with renewal on, as a wave refused with the status `st` sees
it. -/
def failedInvariant (hw : w.FailsWith st) (hfresh : fresh ≠ w.old.access) :
    RequestInvariant ν (Backend w.endpoints fresh (·.status = st))
      (fun q => q.target ≠ w.endpoints.refresh ∧ q.headerValue? "Authorization" ≠ some fresh.bearer) where
  Inv c := w.Inv c.endpoints c.store c.coordinator c.net.2
  At := w.FailedAt st
  Rely := w.Rely
  rely_refl := Rely.refl w
  rely_trans := @Rely.trans _ w
  begin := fun hinv _ hnone => ⟨hinv, Ledger.sentBy_eq_zero hnone⟩
  advance := fun {k q y y'} hallowed hinv hat h => by
    obtain ⟨hq, hown⟩ := hallowed
    cases h with
    | unread hread =>
      obtain ⟨p, hp⟩ := hat.1.readable
      rw [Store.accessToken_of_get hp] at hread
      cases hread
    | @wait c x n =>
      refine ⟨hinv, ?_, Grows.refl _ _ _ _⟩
      cases x <;> exact hat
    | send n hread =>
      obtain ⟨hinv', hat', hg⟩ := failed_send hw hq n hread hat
      exact ⟨fun _ => hinv', hat', hg⟩
    | answer n r hi ha =>
      obtain ⟨hinv', hat', hg⟩ := failed_answer hfresh hq hown n r hi ha (hinv trivial) hat
      exact ⟨fun _ => hinv', hat', hg⟩
    | follow hr =>
      obtain ⟨hinv', hat', hg⟩ := failed_follow hr hat
      exact ⟨fun _ => hinv', hat', hg⟩
    | joinUnread _ hread =>
      obtain ⟨p, hp⟩ := (⟨hat.1, hat.2.1, hat.2.2.2.imp (fun h => h.1) (fun h => ⟨h.1, h.2.1⟩)⟩ :
        w.Inv _ _ _ _).readable
      rw [Store.accessToken_of_get hp] at hread
      cases hread
    | settled _ hread hne => exact (failed_not_settled hw hread hne hat).elim
    | elect hr _ =>
      obtain ⟨hat', hg⟩ := failed_elect hr hat
      exact ⟨fun h => False.elim h, hat', hg⟩
    | unrenewable hread =>
      obtain ⟨hinv', hat', hg⟩ := failed_unrenewable hw hread hat
      exact ⟨fun _ => hinv', hat', hg⟩
    | renew n hread =>
      obtain ⟨hinv', hat', hg⟩ := failed_renew hw n hread hat
      exact ⟨fun _ => hinv', hat', hg⟩
    | conclude n r hi ha hc =>
      obtain ⟨hinv', hat', hg⟩ := failed_conclude hw n r hi ha hc (hinv trivial) hat
      exact ⟨fun _ => hinv', hat', hg⟩
    | receive ho =>
      exact ⟨fun _ => hinv trivial, failed_receive hw ho (hinv trivial) hat, Grows.refl _ _ _ _⟩
    | resend n => exact hat.elim
    | reanswer n r hi ha => exact hat.elim
  stable := fun {k j q y c c'} hjk hg hy hat => by
    cases y with
    | first tok i =>
      obtain ⟨htok, hout, hsent⟩ := hat
      exact ⟨htok.imp_right (And.imp_right hg.settled), hg.out j hjk _ i hout,
        (hg.sentBy j hjk).trans hsent⟩
    | following t =>
      obtain ⟨hf, hsent, hearly⟩ := hat
      exact ⟨hg.follows t hf, (hg.sentBy j hjk).trans hsent, hearly.extends hg.grows⟩
    | leading i =>
      obtain ⟨hb, hr, hout, hsent, hearly⟩ := hat
      obtain ⟨hb', hr'⟩ := hg.leading j hjk i hb hr hout
      exact ⟨hb', hr', hg.out j hjk _ i hout, (hg.sentBy j hjk).trans hsent, hearly.extends hg.grows⟩
    | replay i => exact hat.elim
    | done r =>
      obtain ⟨hs, hsent, hr⟩ := hat
      refine ⟨hg.settled hs, (hg.sentBy j hjk).trans hsent, ?_⟩
      rcases hr with ⟨he, hm⟩ | ⟨hl, hm⟩
      · exact .inl ⟨he.extends hg.grows, hm⟩
      · exact .inr ⟨hl.extends hg.grows, hm⟩
    | start | refused _ | electing | fresh _ => exact False.elim hy

end Wave

/-! ## Every request of a run -/

/-- **A refused renewal fails every request.** Over a faithful store holding `old`, and a backend
that serves exactly the requests presenting the access token `fresh`, other than `old`'s, and
refuses the renewal call with a status `st` outside 2xx, any run of requests with renewal on
that present no token of their own that the backend accepts, in any order of their steps, makes
at most the one renewal call with the old refresh token; sends no request more than once; fails
every request, with the refusal of status `st` when its first attempt was refused before the
renewal call had its reply and with `noRefreshToken` when after; once every request has its
answer, has made that renewal call and left the store empty; and can be polled until every
request has its answer. -/
theorem Pool.failed_wave_ends_every_request {tr : Transport ν φ} {s₀ : Store} {e : Endpoints}
    {n₀ : ν} {old : Pair} {fresh : AccessToken} {st : Nat} (hs₀ : s₀.Faithful)
    (hold : s₀.get = .ok (some old)) (hfresh : fresh ≠ old.access) (hst : st < 200 ∨ 300 ≤ st)
    (sv : tr.Serves (Backend e fresh (·.status = st))) {acts : List Action}
    (hacts : ∀ a ∈ acts, a.Requests fun q =>
      q.target ≠ e.refresh ∧ q.headerValue? "Authorization" ≠ some fresh.bearer) :
    let p := (Pool.init s₀ e n₀ : Pool ν φ).run tr acts
    (p.client.net.2.callsTo e.refresh = [] ∨
      p.client.net.2.callsTo e.refresh = [e.refreshRequest old.refresh]) ∧
    (∀ k, p.client.net.2.sentBy k e.refresh ≤ 1) ∧
    (∀ k r, p.tasks[k]? = some (.replied r) → ∃ i q, p.client.net.2.sent[i]? = some (k, q) ∧
      ((p.client.net.2.RepliedBefore e.refresh i ∧ ∃ m, r = .error (.refreshFailed ⟨some st, m⟩)) ∨
        (p.client.net.2.RepliedAfter e.refresh i ∧ r = .error .noRefreshToken))) ∧
    (p.tasks ≠ [] → p.Answered →
      p.client.net.2.callsTo e.refresh = [e.refreshRequest old.refresh] ∧
        p.client.store.get = .ok none) ∧
    ∃ is : List Nat, (p.run tr (is.map .poll)).Answered := by
  intro p
  -- the wave that fails on `old`
  let w : Wave := ⟨s₀, e, old, none, fun o => ∃ m, o = .error (.refused ⟨some st, m⟩), hs₀, hold,
    (Option.some_ne_none old).symm⟩
  have hw : w.FailsWith st := ⟨rfl, fun _ => Iff.rfl, hst⟩
  let I : RequestInvariant ν _ _ := Wave.failedInvariant hw hfresh
  have hp : I.Holds sv.request p :=
    RequestInvariant.Holds.run I sv (RequestInvariant.Holds.init I sv (Wave.Inv.init w)) hacts
  have hr : p.Reachable tr := (Pool.Reachable.init s₀ e n₀).run acts
  refine ⟨Wave.Inv.calls hp.inv, fun k => ?_, fun k r hk => ?_, fun hnil hall => ?_,
    RequestInvariant.Holds.answered I sv hp hr⟩
  -- a task sends once, and no request on the ledger is of a task that does not exist
  · by_cases hk : k < p.tasks.length
    · obtain ⟨q, -, -, -, hat, -⟩ := hp.tasks k _ (List.getElem?_eq_getElem hk)
      exact Wave.FailedAt.sentBy_le hat
    · have hzero : p.client.net.2.sentBy k e.refresh = 0 :=
        Ledger.sentBy_eq_zero fun x hx => by
          have := hp.owners x hx
          omega
      omega
  · obtain ⟨q, -, -, -, ⟨-, -, ⟨⟨i, q', hi, he⟩, hm⟩ | ⟨⟨i, q', hi, hl⟩, hm⟩⟩, -⟩ := hp.tasks k _ hk
    · exact ⟨i, q', hi, .inl ⟨he, hm⟩⟩
    · exact ⟨i, q', hi, .inr ⟨hl, hm⟩⟩
  -- an answered task finds the wave settled
  · obtain ⟨t, ht⟩ := List.exists_mem_of_ne_nil p.tasks hnil
    obtain ⟨r, rfl⟩ := hall t ht
    obtain ⟨k, hk⟩ := List.mem_iff_getElem?.1 ht
    obtain ⟨q, -, -, -, hat, -⟩ := hp.tasks k _ hk
    exact ⟨hat.1.calls, hat.1.stored⟩

/-! ## Both endings -/

/-- A transport that answers every request at once, as `answer` has it. -/
def Transport.immediate (answer : Http.Request → Reply) : Transport Unit Empty where
  send q n := (n, .ready (answer q))
  poll f _ := f.elim

/-- A transport that answers at once serves any backend that allows its answers. -/
def Transport.immediate_serves {answer : Http.Request → Reply} {A : Http.Request → Reply → Prop}
    (h : ∀ q, A q (answer q)) : (Transport.immediate answer).Serves A where
  request f := f.elim
  polls f := f.elim
  send_ready q _ r hr := by
    cases hr
    exact h q
  send_pending _ _ _ hf := by cases hf
  poll_ready f := f.elim
  poll_pending f := f.elim

/-- The replies of a backend of a wave: `renewal` to the renewal call, a 200 to a request
presenting `fresh`, and a 401 to any other. -/
def waveReplies (e : Endpoints) (fresh : AccessToken) (renewal : Http.Response) (q : Http.Request) :
    Reply :=
  .ok (if q.target = e.refresh then renewal
    else if q.headerValue? "Authorization" = some fresh.bearer then { status := 200 }
    else { status := 401 })

theorem waveReplies_backend {e : Endpoints} {fresh : AccessToken} {renewal : Http.Response}
    {R : Http.Response → Prop} (h : R renewal) (q : Http.Request) :
    Backend e fresh R q (waveReplies e fresh renewal q) := by
  refine ⟨_, rfl, ?_⟩
  split_ifs
  · exact h
  · rfl
  · rfl

set_option maxRecDepth 100000 in
theorem renewalAnswer_of : RenewalAnswer (.of "b" "s") (Http.Response.ofJson 200 (Pair.of "b" "s").toJson) := by
  refine ⟨rfl, ?_⟩
  have h : ((Http.Response.ofJson 200 (Pair.of "b" "s").toJson).decode
      (Pair.reader "TokenPairResponse")).toOption = some (.of "b" "s") := by
    decide +kernel
  revert h
  cases (Http.Response.ofJson 200 (Pair.of "b" "s").toJson).decode (Pair.reader "TokenPairResponse") <;>
    simp [Except.toOption]

/-- **A wave of requests shares one renewal.** Requests sent at once through one client, none of
them dropped, over a faithful store holding `old` and a backend that serves only the requests
presenting one access token other than `old`'s. Each request is sent with renewal on, as a first
attempt and not to the refresh path (`Action.Requests`). When the backend answers the renewal
call with a pair `new` holding that token, at most the one renewal call is made, no request goes
out more than twice, every request is served with the new token, and once all are answered the
renewal call was made and `new` is stored. When it refuses the renewal call with a status `st`
outside 2xx, and no request carries the header `Authorization: Bearer` with the accepted token
of its own, at most the one renewal call is made, no request goes out more than once, every
request fails with the refusal of status `st` when it was refused before the renewal call had its
reply and with `noRefreshToken` when after, and once all are answered the renewal call was made
and the store is empty. Either way polling the requests answers them all. -/
theorem Pool.requests_share_one_renewal :
    (∀ {tr : Transport ν φ} {s₀ : Store} {e : Endpoints} {n₀ : ν} {old new : Pair}
        {acts : List Action}, s₀.Faithful → s₀.get = .ok (some old) → new.access ≠ old.access →
      tr.Serves (Backend e new.access (RenewalAnswer new)) →
      (∀ a ∈ acts, a.Requests (·.target ≠ e.refresh)) →
      let p := (Pool.init s₀ e n₀ : Pool ν φ).run tr acts
      (p.client.net.2.callsTo e.refresh = [] ∨
        p.client.net.2.callsTo e.refresh = [e.refreshRequest old.refresh]) ∧
      (∀ k, p.client.net.2.sentBy k e.refresh ≤ 2) ∧
      (∀ k r, p.tasks[k]? = some (.replied r) → p.client.net.2.Served new k r) ∧
      (p.tasks ≠ [] → p.Answered →
        p.client.net.2.callsTo e.refresh = [e.refreshRequest old.refresh] ∧
          p.client.store.get = .ok (some new)) ∧
      ∃ is : List Nat, (p.run tr (is.map .poll)).Answered) ∧
    (∀ {tr : Transport ν φ} {s₀ : Store} {e : Endpoints} {n₀ : ν} {old : Pair}
        {fresh : AccessToken} {st : Nat} {acts : List Action}, s₀.Faithful →
      s₀.get = .ok (some old) → fresh ≠ old.access → st < 200 ∨ 300 ≤ st →
      tr.Serves (Backend e fresh (·.status = st)) →
      (∀ a ∈ acts, a.Requests fun q =>
        q.target ≠ e.refresh ∧ q.headerValue? "Authorization" ≠ some fresh.bearer) →
      let p := (Pool.init s₀ e n₀ : Pool ν φ).run tr acts
      (p.client.net.2.callsTo e.refresh = [] ∨
        p.client.net.2.callsTo e.refresh = [e.refreshRequest old.refresh]) ∧
      (∀ k, p.client.net.2.sentBy k e.refresh ≤ 1) ∧
      (∀ k r, p.tasks[k]? = some (.replied r) → ∃ i q, p.client.net.2.sent[i]? = some (k, q) ∧
        ((p.client.net.2.RepliedBefore e.refresh i ∧
            ∃ m, r = .error (.refreshFailed ⟨some st, m⟩)) ∨
          (p.client.net.2.RepliedAfter e.refresh i ∧ r = .error .noRefreshToken))) ∧
      (p.tasks ≠ [] → p.Answered →
        p.client.net.2.callsTo e.refresh = [e.refreshRequest old.refresh] ∧
          p.client.store.get = .ok none) ∧
      ∃ is : List Nat, (p.run tr (is.map .poll)).Answered) :=
  ⟨fun hs₀ hold hne sv hacts => Pool.renewed_wave_serves_every_request hs₀ hold hne sv hacts,
    fun hs₀ hold hfresh hst sv hacts =>
      Pool.failed_wave_ends_every_request hs₀ hold hfresh hst sv hacts⟩

/-- Two requests sent at once over a store holding the pair `a`, `r`, to a backend that accepts
the access token `b`: renewed to `b`, `s`, and refused with a 503. -/
theorem Pool.twoRequests_share_one_renewal :
    (let q := Http.Request.new .get "/api/items/"
    let tr := Transport.immediate
      (waveReplies {} (Pair.of "b" "s").access (Http.Response.ofJson 200 (Pair.of "b" "s").toJson))
    let p := (Pool.init (.memory (some (.of "a" "r"))) {} () : Pool Unit Empty).run tr
      [.spawn (.send q true), .spawn (.send q true)]
    (p.client.net.2.callsTo "/api/auth/refresh/" = [] ∨
      p.client.net.2.callsTo "/api/auth/refresh/" = [({} : Endpoints).refreshRequest ⟨"r"⟩]) ∧
    (∀ k, p.client.net.2.sentBy k "/api/auth/refresh/" ≤ 2) ∧
    (∀ k r, p.tasks[k]? = some (.replied r) → p.client.net.2.Served (.of "b" "s") k r) ∧
    (p.tasks ≠ [] → p.Answered →
      p.client.net.2.callsTo "/api/auth/refresh/" = [({} : Endpoints).refreshRequest ⟨"r"⟩] ∧
        p.client.store.get = .ok (some (.of "b" "s"))) ∧
    ∃ is : List Nat, (p.run tr (is.map .poll)).Answered) ∧
    (let q := Http.Request.new .get "/api/items/"
    let tr := Transport.immediate (waveReplies {} ⟨"b"⟩ { status := 503 })
    let p := (Pool.init (.memory (some (.of "a" "r"))) {} () : Pool Unit Empty).run tr
      [.spawn (.send q true), .spawn (.send q true)]
    (p.client.net.2.callsTo "/api/auth/refresh/" = [] ∨
      p.client.net.2.callsTo "/api/auth/refresh/" = [({} : Endpoints).refreshRequest ⟨"r"⟩]) ∧
    (∀ k, p.client.net.2.sentBy k "/api/auth/refresh/" ≤ 1) ∧
    (∀ k r, p.tasks[k]? = some (.replied r) → ∃ i q, p.client.net.2.sent[i]? = some (k, q) ∧
      ((p.client.net.2.RepliedBefore "/api/auth/refresh/" i ∧
          ∃ m, r = .error (.refreshFailed ⟨some 503, m⟩)) ∨
        (p.client.net.2.RepliedAfter "/api/auth/refresh/" i ∧ r = .error .noRefreshToken))) ∧
    (p.tasks ≠ [] → p.Answered →
      p.client.net.2.callsTo "/api/auth/refresh/" = [({} : Endpoints).refreshRequest ⟨"r"⟩] ∧
        p.client.store.get = .ok none) ∧
    ∃ is : List Nat, (p.run tr (is.map .poll)).Answered) :=
  ⟨Pool.requests_share_one_renewal.1 (Store.faithful_memory _) rfl (by decide)
      (Transport.immediate_serves (waveReplies_backend renewalAnswer_of))
      (by simp [Action.Requests, Http.Request.new]),
    Pool.requests_share_one_renewal.2 (Store.faithful_memory _) rfl (by decide) (by decide)
      (Transport.immediate_serves (waveReplies_backend rfl))
      (by simp [Action.Requests, Http.Request.new, Http.Request.headerValue?, Http.headerLookup])⟩

end BearerSession.Client
