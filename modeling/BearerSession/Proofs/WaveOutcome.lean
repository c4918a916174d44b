import BearerSession.Proofs.SingleFlight

/-!
# The outcome of a wave

A wave of renewal runs from the step at which its leader is elected to the step at which it
ends, and it ends in one of two ways:

* the leader's renewal call is answered, and the leader settles the wave: the outcome it
  returns to its own caller goes to every follower, the flag is reset and the store is settled
  in that same step (`Settled`: a renewed pair is stored; a failure clears the store);
* the leader is dropped while its call is outstanding, and the wave is abandoned: every
  follower gets the failure "renewal abandoned", the flag is reset, and the store is as it was.

While the wave runs no step writes the store or sends an outcome, and an outcome that has
reached a ticket is the only one it ever gets (`Pool.sentTo_run_of_answered`). The main
statement is `Pool.Reachable.followers_get_leader_outcome`.
-/

namespace BearerSession

namespace Coordinator

variable {co : Coordinator} {o : RenewalOutcome} {t : Nat}

/-- Ending a wave sends nothing more to a ticket that has had its outcome. -/
theorem sentTo_release_of_answered (hv : co.Valid) (ht : t ∈ co.delivered.map Prod.fst) :
    (co.release o).sentTo t = co.sentTo t ∧ t ∈ (co.release o).delivered.map Prod.fst := by
  have hw : t ∉ co.waiters := fun hw => hv.waiting_unanswered t hw ht
  refine ⟨sentTo_release_of_not_mem hw, ?_⟩
  rw [release_delivered, List.map_append, List.mem_append]
  exact .inl ht

/-- A ticket has had an outcome exactly when something was sent to it. -/
theorem mem_delivered_of_sentTo_eq_cons {os : List RenewalOutcome} (h : co.sentTo t = o :: os) :
    t ∈ co.delivered.map Prod.fst := by
  by_cases ht : t ∈ co.delivered.map Prod.fst
  · exact ht
  · rw [sentTo_eq_nil_iff.2 ht] at h
    cases h

end Coordinator

namespace Client

variable {ν φ : Type}

/-! ## What a move does to a wave -/

section Move

variable {co co' : Coordinator} {s s' : Store} {ph x : Phase}

/-- A move sends nothing more to a ticket that has had its outcome. -/
theorem Move.sentTo_of_answered {t : Nat} (hv : co.Valid) (ht : t ∈ co.delivered.map Prod.fst)
    (hm : Move co s ph co' s' x) :
    co'.sentTo t = co.sentTo t ∧ t ∈ co'.delivered.map Prod.fst := by
  cases hm with
  | stay => exact ⟨rfl, ht⟩
  | leave => exact ⟨rfl, ht⟩
  | follow _ => exact ⟨rfl, ht⟩
  | elect _ => exact ⟨rfl, ht⟩
  | once _ _ => exact Coordinator.sentTo_release_of_answered (Coordinator.start_valid hv) ht
  | settle _ => exact Coordinator.sentTo_release_of_answered hv ht
  | abandon => exact Coordinator.sentTo_release_of_answered hv ht

/-- While a wave runs, a task that does not lead it writes nothing and sends no outcome. -/
theorem Move.frame_of_refreshing (hr : co.refreshing = true) (hph : ph ≠ .leads)
    (hm : Move co s ph co' s' x) : s' = s ∧ co'.delivered = co.delivered := by
  cases hm with
  | stay => exact ⟨rfl, rfl⟩
  | leave => exact ⟨rfl, rfl⟩
  | follow _ => exact ⟨rfl, rfl⟩
  | elect hr' =>
    rw [hr] at hr'
    cases hr'
  | once hr' _ =>
    rw [hr] at hr'
    cases hr'
  | settle _ => exact absurd rfl hph
  | abandon => exact absurd rfl hph

/-- A leader that still leads after its move has only waited. -/
theorem Move.eq_of_leads (hm : Move co s .leads co' s' .leads) : co' = co ∧ s' = s := by
  cases hm
  exact ⟨rfl, rfl⟩

end Move

/-! ## The leader's step and the followers' reading -/

/-- A leader whose renewal call is answered ends the wave on the outcome it returns, and
settles the store. -/
theorem Renewal.poll_leading_ready {tr : Transport ν φ} {f : φ} {c c' : Client ν} {res : Renewed}
    (h : (Renewal.leading f).poll tr c = (c', .ready res)) :
    ∃ o, res = o.mapError RenewalFailure.toFailure ∧ c'.coordinator = c.coordinator.release o ∧
      Settled c.store o c'.store := by
  revert h
  dsimp only [Renewal.poll]
  split
  next => intro h; cases h
  next _ reply _ =>
    rcases hc : conclude reply { c with net := (tr.poll f c.net).1 } with ⟨c₁, o⟩
    obtain ⟨hfin, hco, hset⟩ := @finish_reply ν φ reply _ _ _ hc
    dsimp only
    rw [hfin]
    intro h
    cases h
    exact ⟨o, rfl, hco, hset⟩

/-- A follower whose ticket has had its outcome reads it, as the leader returned it. -/
theorem Renewal.poll_following_of_sentTo {c : Client ν} {t : Nat} {o : RenewalOutcome}
    (h : c.coordinator.sentTo t = [o]) (tr : Transport ν φ) :
    (Renewal.following t).poll tr c = (c, .ready (o.mapError RenewalFailure.toFailure)) := by
  simp [Renewal.poll, Coordinator.outcome?_eq_head?, h]

/-- A task waiting on a renewal stands in the wave as the renewal does. -/
theorem Work.poll_of_renewal {w : Work φ} {r : Renewal φ} (hw : w.renewal? = some r)
    (tr : Transport ν φ) (c : Client ν) :
    (w.poll tr c).1.coordinator = (r.poll tr c).1.coordinator ∧
      (w.poll tr c).1.store = (r.poll tr c).1.store := by
  rcases w with ⟨s, f | r' | f⟩ | r'
  · simp [Work.renewal?] at hw
  · simp only [Work.renewal?, Option.some.injEq] at hw
    subst hw
    obtain ⟨hco, hst, -⟩ := renewed_spec tr s (r'.poll tr c)
    simp only [Work.poll, sendStep_fst, Exchange.poll]
    exact ⟨hco, hst⟩
  · simp [Work.renewal?] at hw
  · simp only [Work.renewal?, Option.some.injEq] at hw
    subst hw
    simp [Work.poll]

/-- Dropping a task that leads a wave abandons the wave. -/
theorem Work.drop_of_leading {w : Work φ} {f : φ} (hw : w.renewal? = some (.leading f))
    (c : Client ν) : w.drop c = c.abandon := by
  rcases w with ⟨s, f' | r' | f'⟩ | r'
  · simp [Work.renewal?] at hw
  · simp only [Work.renewal?, Option.some.injEq] at hw
    subst hw
    rfl
  · simp [Work.renewal?] at hw
  · simp only [Work.renewal?, Option.some.injEq] at hw
    subst hw
    rfl

/-! ## Runs of a pool -/

namespace Pool

variable {tr : Transport ν φ} {p : Pool ν φ}

@[simp] theorem run_nil : p.run tr [] = p := rfl

@[simp] theorem run_cons {a : Action} {acts : List Action} :
    p.run tr (a :: acts) = (p.step tr a).run tr acts := rfl

theorem Reachable.run (hp : p.Reachable tr) (acts : List Action) : (p.run tr acts).Reachable tr := by
  induction acts generalizing p with
  | nil => exact hp
  | cons a acts ih => exact ih (.step a hp)

/-- An outcome that has reached a ticket is the only one it ever gets, whatever runs after. -/
theorem sentTo_run_of_answered (hp : p.Reachable tr) {t : Nat}
    (ht : t ∈ p.client.coordinator.delivered.map Prod.fst) (acts : List Action) :
    (p.run tr acts).client.coordinator.sentTo t = p.client.coordinator.sentTo t := by
  induction acts generalizing p with
  | nil => rfl
  | cons a acts ih =>
    obtain ⟨k, x, hm, -⟩ := step_move tr p a
    obtain ⟨hsent, ht'⟩ := Move.sentTo_of_answered hp.coherent.valid ht hm
    rw [run_cons, ih (.step a hp) ht', hsent]

/-- The task leading a wave waits on its renewal call. -/
theorem exists_of_phase_leads {k : Nat} (hk : p.phase k = .leads) :
    ∃ w f, p.tasks[k]? = some (.running w) ∧ w.renewal? = some (.leading f) := by
  unfold phase at hk
  rcases htask : p.tasks[k]? with _ | task
  · simp [htask] at hk
  · simp only [htask, Option.map_some, Option.getD_some] at hk
    cases task with
    | running w =>
      rcases hw : w.renewal? with _ | r
      · simp [Task.phase, hw] at hk
      · cases r with
        | following t => simp [Task.phase, hw, Renewal.phase] at hk
        | leading f => exact ⟨w, f, rfl, hw⟩
    | replied _ => simp [Task.phase] at hk
    | renewed _ => simp [Task.phase] at hk
    | dropped => simp [Task.phase] at hk

theorem poll_client {k : Nat} {w : Work (Nat × φ)} (hw : p.tasks[k]? = some (.running w)) :
    (p.poll tr k).client = (w.poll (tr.logged k) p.client).1 := by
  simp only [poll, hw]

theorem drop_client {k : Nat} {w : Work (Nat × φ)} (hw : p.tasks[k]? = some (.running w)) :
    (p.drop k).client = w.drop p.client := by
  simp only [drop, hw]

/-- When the wave ends on `o`, a follower that was waiting has `o` for good, and reads it. -/
theorem Reachable.follower_outcome {p' : Pool ν φ} (hp : p.Reachable tr) (hp' : p'.Reachable tr)
    {o : RenewalOutcome} (hrel : p'.client.coordinator = p.client.coordinator.release o)
    {j t : Nat} (hj : p.phase j = .follows t) (hnone : p.client.coordinator.sentTo t = [])
    (acts : List Action) :
    (p'.run tr acts).client.coordinator.sentTo t = [o] ∧
      ((Renewal.following t).poll (tr.logged j) (p'.run tr acts).client).2 =
        .ready (o.mapError RenewalFailure.toFailure) := by
  have h := hp.coherent
  -- the follower waits on the wave that ends, so the release answers its ticket once
  have hw : t ∈ p.client.coordinator.waiters :=
    h.follower_waits j t hj (Coordinator.sentTo_eq_nil_iff.1 hnone)
  have hsent : p'.client.coordinator.sentTo t = [o] := by
    rw [hrel]
    exact Coordinator.sentTo_release_of_mem h.valid hw
  have hrun := sentTo_run_of_answered hp' (Coordinator.mem_delivered_of_sentTo_eq_cons hsent) acts
  rw [hsent] at hrun
  refine ⟨hrun, ?_⟩
  rw [Renewal.poll_following_of_sentTo hrun]

end Pool

/-- **Every follower gets its leader's outcome, once.** Let task `k` lead a wave in a reachable
pool. While the wave runs, no step writes the store or sends an outcome. If the leader's
renewal call is answered, the leader returns an outcome `o`, and in that same step the flag is
reset and the store is settled on `o`; every follower then waiting has `o` as the one outcome
sent to its ticket for the rest of the run, and reads the very result the leader returned. If
the leader is dropped instead, the flag is reset, the store is left as it was, and every
follower has the failure "renewal abandoned" for good. -/
theorem Pool.Reachable.followers_get_leader_outcome {tr : Transport ν φ} {p : Pool ν φ}
    (hp : p.Reachable tr) {k : Nat} (hk : p.phase k = .leads) :
    (∀ a, (p.step tr a).phase k = .leads →
      (p.step tr a).client.store = p.client.store ∧
        (p.step tr a).client.coordinator.delivered = p.client.coordinator.delivered) ∧
    (∀ w f res, p.tasks[k]? = some (.running w) → w.renewal? = some (.leading f) →
      ((Renewal.leading f).poll (tr.logged k) p.client).2 = .ready res →
      ∃ o, res = o.mapError RenewalFailure.toFailure ∧
        (p.poll tr k).client.coordinator.refreshing = false ∧
        Settled p.client.store o (p.poll tr k).client.store ∧
        ∀ j t, p.phase j = .follows t → p.client.coordinator.sentTo t = [] → ∀ acts,
          ((p.poll tr k).run tr acts).client.coordinator.sentTo t = [o] ∧
          ((Renewal.following t).poll (tr.logged j) ((p.poll tr k).run tr acts).client).2 =
            .ready res) ∧
    ((p.drop k).client.coordinator.refreshing = false ∧ (p.drop k).client.store = p.client.store ∧
      ∀ j t, p.phase j = .follows t → p.client.coordinator.sentTo t = [] → ∀ acts,
        ((p.drop k).run tr acts).client.coordinator.sentTo t = [.error abandoned] ∧
        ((Renewal.following t).poll (tr.logged j) ((p.drop k).run tr acts).client).2 =
          .ready (.error (.refreshFailed ⟨none, "renewal abandoned"⟩))) := by
  have h := hp.coherent
  refine ⟨?running, ?settled, ?abandoned⟩
  case running =>
    intro a ha
    obtain ⟨i, x, hm, hph⟩ := Pool.step_move tr p a
    by_cases hik : i = k
    · -- the leader itself moved and still leads: it only waited
      subst hik
      rw [hph, Function.update_self] at ha
      rw [hk, ha] at hm
      obtain ⟨hco, hs⟩ := Move.eq_of_leads hm
      exact ⟨hs, by rw [hco]⟩
    · -- another task moved while the wave runs
      have hi : p.phase i ≠ .leads := fun hi => hik (h.one_leader i k hi hk)
      exact Move.frame_of_refreshing (h.refreshing_iff.2 ⟨k, hk⟩) hi hm
  case settled =>
    intro w f res hw hr hready
    have hpoll : (Renewal.leading f).poll (tr.logged k) p.client =
        (((Renewal.leading f).poll (tr.logged k) p.client).1, .ready res) := by
      rw [← hready]
    obtain ⟨o, hres, hco, hset⟩ := Renewal.poll_leading_ready hpoll
    obtain ⟨hco', hst'⟩ := Work.poll_of_renewal hr (tr.logged k) p.client
    rw [← Pool.poll_client hw] at hco' hst'
    have hrel : (p.poll tr k).client.coordinator = p.client.coordinator.release o := by
      rw [hco', hco]
    refine ⟨o, hres, by rw [hrel]; rfl, hst' ▸ hset, fun j t hj hnone acts => ?_⟩
    rw [hres]
    exact Pool.Reachable.follower_outcome hp (.step (.poll k) hp) hrel hj hnone acts
  case abandoned =>
    obtain ⟨w, f, hw, hr⟩ := Pool.exists_of_phase_leads hk
    have hdrop : (p.drop k).client = p.client.abandon := by
      rw [Pool.drop_client hw, Work.drop_of_leading hr]
    have hrel : (p.drop k).client.coordinator = p.client.coordinator.release (.error abandoned) := by
      rw [hdrop, abandon_coordinator]
    refine ⟨by rw [hrel]; rfl, by rw [hdrop, abandon_store], fun j t hj hnone acts => ?_⟩
    exact Pool.Reachable.follower_outcome hp (.step (.drop k) hp) hrel hj hnone acts

theorem Pool.leaderAndFollower_get_leader_outcome :
    Pool.leaderAndFollower.Reachable Transport.silent ∧ Pool.leaderAndFollower.phase 0 = .leads ∧
    (∀ a, (Pool.leaderAndFollower.step Transport.silent a).phase 0 = .leads →
      (Pool.leaderAndFollower.step Transport.silent a).client.store =
          Pool.leaderAndFollower.client.store ∧
        (Pool.leaderAndFollower.step Transport.silent a).client.coordinator.delivered =
          Pool.leaderAndFollower.client.coordinator.delivered) ∧
    (∀ w f res, Pool.leaderAndFollower.tasks[0]? = some (.running w) →
      w.renewal? = some (.leading f) →
      ((Renewal.leading f).poll (Transport.silent.logged 0) Pool.leaderAndFollower.client).2 =
        .ready res →
      ∃ o, res = o.mapError RenewalFailure.toFailure ∧
        (Pool.leaderAndFollower.poll Transport.silent 0).client.coordinator.refreshing = false ∧
        Settled Pool.leaderAndFollower.client.store o
          (Pool.leaderAndFollower.poll Transport.silent 0).client.store ∧
        ∀ j t, Pool.leaderAndFollower.phase j = .follows t →
          Pool.leaderAndFollower.client.coordinator.sentTo t = [] → ∀ acts,
          ((Pool.leaderAndFollower.poll Transport.silent 0).run Transport.silent
            acts).client.coordinator.sentTo t = [o] ∧
          ((Renewal.following t).poll (Transport.silent.logged j)
            ((Pool.leaderAndFollower.poll Transport.silent 0).run Transport.silent
              acts).client).2 = .ready res) ∧
    ((Pool.leaderAndFollower.drop 0).client.coordinator.refreshing = false ∧
      (Pool.leaderAndFollower.drop 0).client.store = Pool.leaderAndFollower.client.store ∧
      ∀ j t, Pool.leaderAndFollower.phase j = .follows t →
        Pool.leaderAndFollower.client.coordinator.sentTo t = [] → ∀ acts,
        ((Pool.leaderAndFollower.drop 0).run Transport.silent acts).client.coordinator.sentTo t =
          [.error abandoned] ∧
        ((Renewal.following t).poll (Transport.silent.logged j)
          ((Pool.leaderAndFollower.drop 0).run Transport.silent acts).client).2 =
          .ready (.error (.refreshFailed ⟨none, "renewal abandoned"⟩))) :=
  have hk : Pool.leaderAndFollower.phase 0 = .leads := by decide
  ⟨Pool.leaderAndFollower_reachable, hk,
    Pool.Reachable.followers_get_leader_outcome Pool.leaderAndFollower_reachable hk⟩

/-- Dropping the leader of the two answers its follower with the abandonment. -/
example : (Pool.leaderAndFollower.drop 0).client.coordinator.sentTo 0 = [.error abandoned] :=
  rfl

end Client

end BearerSession
