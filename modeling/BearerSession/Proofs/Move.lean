import BearerSession.Proofs.Coordinator

/-!
# What one step of a task does to the coordinator

A step of a task runs its code from one point where it waits to the next. Whatever code that
is, the step does one of few things to the coordinator and the store (`Move`): nothing; stop
following a wave; follow the running wave with the next ticket; start a wave and wait for its
renewal call; start a wave and end it at once; end the wave it leads; or, when the task is
dropped, abandon that wave. Ending a wave releases every ticket with one outcome and leaves
the store as `Settled` says: a renewed pair stored, or the store cleared.

The lemmas go up the code: first what joining, concluding and leading a wave do, then a
renewal step, a request step, and at last `Work.poll_move`, `Call.start_move` and
`Work.drop_move`, which the invariants of runs are proved from.
-/

namespace BearerSession.Client

variable {ν φ : Type}

/-- How the store ends a wave with outcome `o`: a renewed pair stays stored; a failure clears
the store, after a pair that could not be stored, or without one. -/
inductive Settled : Store → RenewalOutcome → Store → Prop
  | renewed {s : Store} (pair : Pair) :
      (s.set pair).2 = .ok () → Settled s (.ok pair.access) (s.set pair).1
  | cleared {s : Store} (e : RenewalFailure) : Settled s (.error e) s.clear.1
  | unsaved {s : Store} (pair : Pair) (e : RenewalFailure) :
      (s.set pair).2 ≠ .ok () → Settled s (.error e) (s.set pair).1.clear.1

/-- What one step of one task does to the coordinator and the store, with the task's phase
before and after the step. -/
inductive Move : Coordinator → Store → Phase → Coordinator → Store → Phase → Prop
  /-- Works outside any wave, or waits where it is. -/
  | stay {co s ph} : Move co s ph co s ph
  /-- Stops following a wave. -/
  | leave {co s t} : Move co s (.follows t) co s .idle
  /-- Follows the running wave with the next ticket. -/
  | follow {co s} : co.refreshing = true → Move co s .idle co.enqueue.1 s (.follows co.issued)
  /-- Starts a wave and waits for its renewal call. -/
  | elect {co s} : co.refreshing = false → Move co s .idle { co with refreshing := true } s .leads
  /-- Starts a wave and ends it within the same step. -/
  | once {co s o s'} : co.refreshing = false → Settled s o s' →
      Move co s .idle ({ co with refreshing := true }.release o) s' .idle
  /-- Ends the wave it leads. -/
  | settle {co s o s'} : Settled s o s' → Move co s .leads (co.release o) s' .idle
  /-- Goes away while leading. -/
  | abandon {co s} : Move co s .leads (co.release (.error abandoned)) s .idle

/-! ## Joining, concluding and ending a wave -/

section Client

variable {c : Client ν} {rejected : Option AccessToken}

/-- While a wave runs, a caller follows it with the next ticket. -/
theorem join_of_refreshing (h : c.coordinator.refreshing = true) :
    c.join rejected =
      ({ c with coordinator := c.coordinator.enqueue.1 }, .ok (.follower c.coordinator.issued)) := by
  simp [Client.join, h, Coordinator.enqueue]

/-- With no wave running, a caller leads a new wave, or else the client stays as it is: the
store could not be read, or it holds a token other than the refused one. -/
theorem join_of_idle (h : c.coordinator.refreshing = false) :
    c.join rejected = ({ c with coordinator := { c.coordinator with refreshing := true } }, .ok .leader) ∨
      ∃ r, c.join rejected = (c, r) ∧ ((∃ e, r = .error e) ∨ ∃ token, r = .ok (.settled token)) := by
  unfold Client.join
  rw [h]
  rcases hread : c.store.accessToken with e | _ | current
  · exact .inr ⟨_, rfl, .inl ⟨e, rfl⟩⟩
  · exact .inl rfl
  · by_cases hsame : some current = rejected
    · exact .inl (by simp [hsame])
    · exact .inr ⟨_, by simp [hsame], .inr ⟨current, rfl⟩⟩

/-- A join fails exactly when no wave runs and the store cannot be read, and then it leaves
the client, its wave and its followers as they were. -/
theorem join_eq_error_iff {c' : Client ν} {e : Failure} :
    c.join rejected = (c', .error e) ↔
      c.coordinator.refreshing = false ∧ c.store.accessToken = .error e ∧ c' = c := by
  unfold Client.join
  cases hco : c.coordinator.refreshing with
  | true => simp
  | false =>
    rcases hread : c.store.accessToken with e' | _ | current
    · simp only [Bool.false_eq_true, if_false, Prod.mk.injEq, Except.error.injEq, true_and]
      exact ⟨fun ⟨h₁, h₂⟩ => ⟨h₂, h₁.symm⟩, fun ⟨h₂, h₁⟩ => ⟨h₁.symm, h₂⟩⟩
    · simp
    · by_cases hsame : some current = rejected <;> simp [hsame]

@[simp] theorem settle_coordinator {o : RenewalOutcome} :
    (c.settle o).coordinator = c.coordinator.release o := rfl
@[simp] theorem settle_net {o : RenewalOutcome} : (c.settle o).net = c.net := rfl
@[simp] theorem settle_endpoints {o : RenewalOutcome} : (c.settle o).endpoints = c.endpoints := rfl
@[simp] theorem abandon_coordinator :
    c.abandon.coordinator = c.coordinator.release (.error abandoned) := rfl
@[simp] theorem abandon_store : c.abandon.store = c.store := rfl
@[simp] theorem abandon_net : c.abandon.net = c.net := rfl

/-- Concluding a wave changes nothing but the store. -/
theorem conclude_fst (reply : Reply) (c : Client ν) :
    (conclude reply c).1 = { c with store := (conclude reply c).1.store } := by
  unfold conclude
  rcases reply with e | r
  · rfl
  · dsimp only
    split
    · rfl
    · split
      · rfl
      · rename_i pair _
        rcases c.store.set pair with ⟨store, saved⟩
        cases saved <;> rfl

/-- Ending a wave on its outcome leaves the store settled. -/
theorem conclude_settled (reply : Reply) (c : Client ν) :
    Settled c.store (conclude reply c).2 ((conclude reply c).1.settle (conclude reply c).2).store := by
  unfold conclude
  rcases reply with e | r
  · exact .cleared _
  · dsimp only
    split
    · exact .cleared _
    · split
      · exact .cleared _
      · rename_i pair _
        rcases hset : c.store.set pair with ⟨store, saved⟩
        cases saved with
        | ok u =>
          have hok : (c.store.set pair).2 = .ok () := by rw [hset]
          have hstore : (c.store.set pair).1 = store := by rw [hset]
          exact hstore ▸ .renewed pair hok
        | error e =>
          have hfail : (c.store.set pair).2 ≠ .ok () := by rw [hset]; simp
          have hstore : (c.store.set pair).1 = store := by rw [hset]
          exact hstore ▸ .unsaved pair _ hfail

/-- Concluding a wave on `reply`: only the store changes, and ending the wave on the outcome
leaves it settled. -/
theorem conclude_eq {reply : Reply} {c₁ : Client ν} {o : RenewalOutcome}
    (h : conclude reply c = (c₁, o)) :
    c₁.coordinator = c.coordinator ∧ c₁.net = c.net ∧ Settled c.store o (c₁.settle o).store := by
  have hfst := conclude_fst reply c
  have hset := conclude_settled reply c
  rw [h] at hfst hset
  dsimp only at hfst hset
  rw [hfst]
  exact ⟨rfl, rfl, hset⟩

end Client

/-! ## A step of renewal -/

@[simp] theorem renewStep_fst (x : Client ν × Poll (Renewal φ) Renewed) : (renewStep x).1 = x.1 := by
  rcases x with ⟨c, r | t⟩ <;> rfl

@[simp] theorem renewStep_pending {c : Client ν} {r : Renewal φ} :
    (renewStep (c, .pending r)).2.phase = r.phase := rfl

@[simp] theorem renewStep_ready {c : Client ν} {t : Renewed} :
    (renewStep (c, (.ready t : Poll (Renewal φ) Renewed))).2.phase = .idle := rfl

/-- A wave ending on `reply` to its renewal call: the leader gets the outcome, every ticket is
released with it, and the store is settled. -/
theorem finish_reply {reply : Reply} {c c₁ : Client ν} {o : RenewalOutcome}
    (h : conclude reply c = (c₁, o)) :
    (@finishWave ν φ o c₁) = (c₁.settle o, .ready (o.mapError RenewalFailure.toFailure)) ∧
      (c₁.settle o).coordinator = c.coordinator.release o ∧
      Settled c.store o (c₁.settle o).store := by
  obtain ⟨hco, -, hset⟩ := conclude_eq h
  exact ⟨rfl, by simp [hco], hset⟩

/-- A leader with no refresh token, or with a store it cannot read, ends its wave at once.
Otherwise it sends the renewal call, and either waits for it or ends the wave on the reply. -/
theorem lead_spec (tr : Transport ν φ) (c : Client ν) :
    (∃ c' f, lead tr c = (c', .pending (.leading f)) ∧
      c'.coordinator = c.coordinator ∧ c'.store = c.store) ∨
    ∃ c' o, lead tr c = (c', .ready (o.mapError RenewalFailure.toFailure)) ∧
      c'.coordinator = c.coordinator.release o ∧ Settled c.store o c'.store := by
  unfold lead
  split
  · exact .inr ⟨_, _, rfl, rfl, .cleared _⟩
  · exact .inr ⟨_, _, rfl, rfl, .cleared _⟩
  · split
    next _ net sent _ =>
      cases sent with
      | pending f => exact .inl ⟨_, f, rfl, rfl, rfl⟩
      | ready reply =>
        dsimp only
        rcases hc : conclude reply { c with net } with ⟨c₁, o⟩
        obtain ⟨hfin, hco, hset⟩ := @finish_reply ν φ reply _ _ _ hc
        exact .inr ⟨_, o, hfin, hco, hset⟩

/-- Obtaining a fresh token is a move from outside any wave. -/
theorem ensureFresh_move (tr : Transport ν φ) (rejected : Option AccessToken) (c : Client ν) :
    Move c.coordinator c.store .idle (ensureFresh tr rejected c).1.coordinator
      (ensureFresh tr rejected c).1.store (renewStep (ensureFresh tr rejected c)).2.phase := by
  cases hco : c.coordinator.refreshing with
  | true =>
    simp only [ensureFresh, @join_of_refreshing ν c rejected hco, renewStep, Task.phase,
      Work.renewal?]
    exact .follow hco
  | false =>
    rcases @join_of_idle ν c rejected hco with hj | ⟨r, hj, ⟨e, rfl⟩ | ⟨token, rfl⟩⟩
    · simp only [ensureFresh, hj]
      rcases lead_spec tr { c with coordinator := { c.coordinator with refreshing := true } } with
        ⟨c', f, hl, hco', hs⟩ | ⟨c', o, hl, hco', hs⟩
      · rw [hl]
        simp only [renewStep, Task.phase, Work.renewal?, hco', hs]
        exact .elect hco
      · rw [hl]
        simp only [renewStep, Task.phase, hco']
        exact .once hco hs
    · simp only [ensureFresh, hj, renewStep, Task.phase]
      exact .stay
    · simp only [ensureFresh, hj, renewStep, Task.phase]
      exact .stay

/-- Polling a renewal: a follower reads its ticket, a leader polls its renewal call. -/
theorem Renewal.poll_move (tr : Transport ν φ) (r : Renewal φ) (c : Client ν) :
    Move c.coordinator c.store r.phase (r.poll tr c).1.coordinator (r.poll tr c).1.store
      (renewStep (r.poll tr c)).2.phase := by
  unfold Renewal.poll
  split
  next ticket =>
    split
    next => exact .leave
    next => exact .stay
  next f =>
    split
    next _ net polled _ =>
      cases polled with
      | pending f' => exact .stay
      | ready reply =>
        dsimp only
        rcases hc : conclude reply { c with net } with ⟨c₁, o⟩
        obtain ⟨hfin, hco, hset⟩ := @finish_reply ν φ reply _ _ _ hc
        simp only [hfin, renewStep, Task.phase, hco]
        exact .settle hset

/-! ## A step of a request -/

@[simp] theorem sendStep_fst (x : Client ν × Poll (Exchange φ) Reply) : (sendStep x).1 = x.1 := by
  rcases x with ⟨c, ex | reply⟩ <;> rfl

/-- Sending the replay changes only the network, and the request is in no wave. -/
theorem replay_spec (tr : Transport ν φ) (s : Sending) (fresh : AccessToken) (c : Client ν) :
    (replay tr s fresh c).1.coordinator = c.coordinator ∧ (replay tr s fresh c).1.store = c.store ∧
      (sendStep (replay tr s fresh c)).2.phase = .idle := by
  unfold replay
  split
  next _ net sent _ =>
    cases sent <;> exact ⟨rfl, rfl, rfl⟩

/-- A request waiting on a renewal stands in the wave as the renewal does; once the renewal
ends, the request is in no wave. -/
theorem renewed_spec (tr : Transport ν φ) (s : Sending) (x : Client ν × Poll (Renewal φ) Renewed) :
    (renewed tr s x).1.coordinator = x.1.coordinator ∧ (renewed tr s x).1.store = x.1.store ∧
      (sendStep (renewed tr s x)).2.phase = (renewStep x).2.phase := by
  rcases x with ⟨c, r | e | fresh⟩
  · exact ⟨rfl, rfl, rfl⟩
  · exact ⟨rfl, rfl, rfl⟩
  · exact replay_spec tr s fresh c

/-- A move of a renewal is the same move of the request that waits on it. -/
theorem Move.renewed {co : Coordinator} {st : Store} {ph : Phase} (tr : Transport ν φ) (s : Sending)
    {x : Client ν × Poll (Renewal φ) Renewed}
    (h : Move co st ph x.1.coordinator x.1.store (renewStep x).2.phase) :
    Move co st ph (renewed tr s x).1.coordinator (renewed tr s x).1.store
      (sendStep (renewed tr s x)).2.phase := by
  obtain ⟨hco, hst, hph⟩ := renewed_spec tr s x
  rw [hco, hst, hph]
  exact h

/-- The reply to a first attempt: a 401 that may renew obtains a fresh token; any other
reply is the answer. -/
theorem answered_move (tr : Transport ν φ) (s : Sending) (reply : Reply) (c : Client ν) :
    Move c.coordinator c.store .idle (answered tr s reply c).1.coordinator
      (answered tr s reply c).1.store (sendStep (answered tr s reply c)).2.phase := by
  unfold answered
  split
  next => exact .stay
  next r =>
    split
    next => exact Move.renewed tr s (ensureFresh_move tr s.token c)
    next => exact .stay

/-- The first step of a request: it is sent, and its reply, if it came, is answered. -/
theorem startRequest_move (tr : Transport ν φ) (request : Http.Request) (renews : Bool) (c : Client ν) :
    Move c.coordinator c.store .idle (Client.start tr request renews c).1.coordinator
      (Client.start tr request renews c).1.store
      (sendStep (Client.start tr request renews c)).2.phase := by
  unfold Client.start
  generalize (if renews then c.store.accessToken else .ok none :
    Except Failure (Option AccessToken)) = token
  cases token with
  | error e => exact .stay
  | ok token =>
    dsimp only
    -- the request goes with the stored token as its bearer, if there is one
    cases token with
    | none =>
      split
      next => exact .stay
      next _ reply _ => exact answered_move tr _ reply { c with net := (tr.send request c.net).1 }
    | some t =>
      split
      next => exact .stay
      next _ reply _ =>
        exact answered_move tr _ reply { c with net := (tr.send (request.withBearer t) c.net).1 }

/-- Polling a request under way. -/
theorem Exchange.poll_move (tr : Transport ν φ) (ex : Exchange φ) (c : Client ν) :
    Move c.coordinator c.store (Task.running (.exchange ex)).phase (ex.poll tr c).1.coordinator
      (ex.poll tr c).1.store (sendStep (ex.poll tr c)).2.phase := by
  rcases ex with ⟨s, f | r | f⟩
  · unfold Exchange.poll
    dsimp only
    split
    next => exact .stay
    next _ reply _ => exact answered_move tr s reply { c with net := (tr.poll f c.net).1 }
  · exact Move.renewed tr s (Renewal.poll_move tr r c)
  · unfold Exchange.poll
    dsimp only
    split <;> exact .stay

/-! ## A step of a task -/

@[simp] theorem Task.phase_renewal (r : Renewal φ) : (Task.running (.renewal r)).phase = r.phase :=
  rfl

/-- Polling a task is a move from its phase to the phase of what it becomes. -/
theorem Work.poll_move (tr : Transport ν φ) (w : Work φ) (c : Client ν) :
    Move c.coordinator c.store (Task.running w).phase (w.poll tr c).1.coordinator
      (w.poll tr c).1.store (w.poll tr c).2.phase := by
  rcases w with ex | r
  · simpa only [Work.poll, sendStep_fst] using Exchange.poll_move tr ex c
  · simpa only [Work.poll, renewStep_fst, Task.phase_renewal] using Renewal.poll_move tr r c

/-- Starting a task is a move from outside any wave. -/
theorem Call.start_move (tr : Transport ν φ) (call : Call) (c : Client ν) :
    Move c.coordinator c.store .idle (call.start tr c).1.coordinator (call.start tr c).1.store
      (call.start tr c).2.phase := by
  cases call with
  | send request renews =>
    simpa only [Call.start, sendStep_fst] using startRequest_move tr request renews c
  | ensureFresh rejected =>
    simpa only [Call.start, renewStep_fst] using ensureFresh_move tr rejected c
  | renewNow =>
    simp only [Call.start]
    split
    next => exact .stay
    next current _ => simpa only [renewStep_fst] using ensureFresh_move tr current c

/-- Dropping a task: a leader abandons its wave, and any other task leaves the client as it
is. -/
theorem Work.drop_move (w : Work φ) (c : Client ν) :
    Move c.coordinator c.store (Task.running w).phase (w.drop c).coordinator (w.drop c).store
      .idle := by
  rcases w with ⟨s, f | r | f⟩ | r
  · exact .stay
  · rcases r with ticket | f
    · exact .leave
    · exact .abandon
  · exact .stay
  · rcases r with ticket | f
    · exact .leave
    · exact .abandon

end BearerSession.Client
