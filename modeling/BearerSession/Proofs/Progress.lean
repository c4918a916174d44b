import BearerSession.Proofs.Interference
import Mathlib

/-!
# Every request gets its answer

Over a transport that answers every request after finitely many polls, no run of requests gets
stuck: from every pool that a run reaches, polling the right tasks brings every task to its
answer (`RequestInvariant.Holds.answered`).

A request moves toward its answer along its path, which `Point.rank` measures. A poll of a
request in flight either brings its reply, and the request goes on to a point of lower rank, or
leaves it in flight with fewer polls to go; a poll of a follower whose wave has ended moves it
on as well. So such a poll brings the pool closer to the end, ranks first and polls second. And
while some task has no answer, such a task is there: a follower whose wave has not ended waits
on a wave, and a wave runs only while a task leads it with its renewal call in flight
(`Coherent`).
-/

namespace BearerSession.Client

variable {ν φ : Type}

/-- How far a request stands from its answer along its path. -/
def Point.rank : Point → Nat
  | .start => 7
  | .first _ _ => 6
  | .refused _ => 5
  | .electing => 4
  | .following _ => 3
  | .leading _ => 3
  | .fresh _ => 2
  | .replay _ => 1
  | .done _ => 0

/-- The polls the flight of a task still needs; none without a flight. -/
def Task.pollsLeft (polls : φ → Nat) (t : Task (Nat × φ)) : Nat :=
  (t.flight?.map fun f => polls f.2).getD 0

/-- Task `t'` is closer to its answer than `t`: of lower rank, or of the same rank with fewer
polls to go. -/
def Task.Closer (polls : φ → Nat) (t' t : Task (Nat × φ)) : Prop :=
  t'.point.rank < t.point.rank ∨
    (t'.point.rank = t.point.rank ∧ t'.pollsLeft polls < t.pollsLeft polls)

/-! ## A poll brings a request closer to its answer -/

section Closer

variable (tr : Transport ν (Nat × φ)) (s : Sending) (c : Client ν)

theorem replay_rank (fresh : AccessToken) : (sendStep (replay tr s fresh c)).2.point.rank ≤ 1 := by
  unfold replay
  split
  next _ net sent _ =>
    cases sent <;> simp [sendStep, Task.point, Exchange.point, Point.rank]

/-- A request whose renewal has ended replays or has its answer. -/
theorem renewed_ready_rank (res : Renewed) :
    (sendStep (renewed tr s (c, .ready res))).2.point.rank ≤ 2 := by
  rcases res with err | fresh
  · simp [renewed, sendStep, Task.point, Point.rank]
  · have h := replay_rank tr s c fresh
    simp only [renewed]
    omega

theorem renewed_rank (x : Client ν × Poll (Renewal (Nat × φ)) Renewed) :
    (sendStep (renewed tr s x)).2.point.rank ≤ 3 := by
  rcases x with ⟨c', (ticket | f) | res⟩
  · simp [renewed, sendStep, Task.point, Exchange.point, Point.ofRenewal, Point.rank]
  · simp [renewed, sendStep, Task.point, Exchange.point, Point.ofRenewal, Point.rank]
  · have h := renewed_ready_rank tr s c' res
    omega

/-- Once its first attempt is answered, a request renews, replays or has its answer. -/
theorem answered_rank (reply : Reply) : (sendStep (answered tr s reply c)).2.point.rank ≤ 3 := by
  unfold answered
  split
  · simp [sendStep, Task.point, Point.rank]
  · split
    · exact renewed_rank tr s _
    · simp [sendStep, Task.point, Point.rank]

end Closer

section Serves

variable {tr : Transport ν φ} {A : Http.Request → Reply → Prop} (sv : tr.Serves A) (i : Nat)
  (c : Client (ν × Ledger)) (s : Sending)

/-- A poll of a first attempt in flight brings its request closer to its answer. -/
theorem first_poll_closer (f : Nat × φ) :
    (sendStep ((⟨s, .first f⟩ : Exchange (Nat × φ)).poll (tr.logged i) c)).2.Closer sv.polls
      (.running (.exchange ⟨s, .first f⟩)) := by
  unfold Exchange.poll
  dsimp only
  split
  next g heq =>
    exact .inr ⟨rfl, (sv.logged_poll_pending i heq).2⟩
  next r heq =>
    refine .inl (Nat.lt_of_le_of_lt (answered_rank _ s _ r) ?_)
    simp [Task.point, Exchange.point, Point.rank]

/-- A poll of a replay in flight brings its request closer to its answer. -/
theorem replay_poll_closer (f : Nat × φ) :
    (sendStep ((⟨s, .replay f⟩ : Exchange (Nat × φ)).poll (tr.logged i) c)).2.Closer sv.polls
      (.running (.exchange ⟨s, .replay f⟩)) := by
  unfold Exchange.poll
  dsimp only
  split
  next g heq =>
    exact .inr ⟨rfl, (sv.logged_poll_pending i heq).2⟩
  next r heq =>
    left
    simp [sendStep, Task.point, Exchange.point, Point.rank]

/-- A poll of a renewal call in flight brings the request of its leader closer to its answer. -/
theorem leading_poll_closer (f : Nat × φ) :
    (sendStep ((⟨s, .renewing (.leading f)⟩ : Exchange (Nat × φ)).poll (tr.logged i) c)).2.Closer
      sv.polls (.running (.exchange ⟨s, .renewing (.leading f)⟩)) := by
  unfold Exchange.poll Renewal.poll
  dsimp only
  split
  next g heq =>
    exact .inr ⟨rfl, (sv.logged_poll_pending i heq).2⟩
  next r heq =>
    rcases conclude r { c with net := ((tr.logged i).poll f c.net).1 } with ⟨c₁, o⟩
    refine .inl (Nat.lt_of_le_of_lt (renewed_ready_rank _ s _ _) ?_)
    simp [Task.point, Exchange.point, Point.ofRenewal, Point.rank]

/-- A poll of a follower whose wave has ended moves its request on. -/
theorem following_poll_closer {ticket : Nat} {o : RenewalOutcome}
    (ho : c.coordinator.outcome? ticket = some o) :
    (sendStep ((⟨s, .renewing (.following ticket)⟩ : Exchange (Nat × φ)).poll (tr.logged i) c)).2.Closer
      sv.polls (.running (.exchange ⟨s, .renewing (.following ticket)⟩)) := by
  simp only [Exchange.poll, Renewal.poll, ho]
  refine .inl (Nat.lt_of_le_of_lt (renewed_ready_rank _ s c _) ?_)
  simp [Task.point, Exchange.point, Point.ofRenewal, Point.rank]

end Serves

/-! ## The pool comes closer to the end -/

/-- Putting `a` in place of the `i`-th of a list of summands. -/
theorem sum_map_set {α : Type} (g : α → Nat) {l : List α} {i : Nat} (hi : i < l.length) (a : α) :
    ((l.set i a).map g).sum + g l[i] = (l.map g).sum + g a := by
  have hi' : i < (l.map g).length := by simpa using hi
  rw [List.map_set, List.sum_set, if_pos hi', ← List.sum_take_add_sum_drop (l.map g) i,
    List.drop_eq_getElem_cons hi', List.sum_cons, List.getElem_map]
  omega

namespace Pool

/-- The ranks of the points of the tasks, summed. -/
def rank (p : Pool ν φ) : Nat := (p.tasks.map fun t => t.point.rank).sum

/-- The polls the flights of the tasks still need, summed. -/
def pollsLeft (polls : φ → Nat) (p : Pool ν φ) : Nat := (p.tasks.map (Task.pollsLeft polls)).sum

/-- Pool `p'` is closer to the end than `p`: of lower rank, or of the same rank with fewer polls
to go. -/
def Closer (polls : φ → Nat) (p' p : Pool ν φ) : Prop :=
  p'.rank < p.rank ∨ (p'.rank = p.rank ∧ p'.pollsLeft polls < p.pollsLeft polls)

/-- Every task has its answer. -/
def Answered (p : Pool ν φ) : Prop := ∀ t ∈ p.tasks, ∃ r, t = .replied r

/-- A task put closer to its answer brings the pool closer to the end. -/
theorem closer_set {polls : φ → Nat} {p : Pool ν φ} {i : Nat} {t t' : Task (Nat × φ)}
    (hi : p.tasks[i]? = some t) (h : t'.Closer polls t) (c : Client (ν × Ledger)) :
    Closer polls ⟨c, p.tasks.set i t'⟩ p := by
  obtain ⟨hlt, rfl⟩ := List.getElem?_eq_some_iff.1 hi
  have hr := sum_map_set (fun t => t.point.rank) hlt t'
  have hp := sum_map_set (Task.pollsLeft polls) hlt t'
  unfold Closer rank pollsLeft
  dsimp only at hr hp ⊢
  rcases h with h | ⟨h, h'⟩
  · exact .inl (by omega)
  · exact .inr ⟨by omega, by omega⟩

/-- A task whose request is in flight comes closer to its answer when polled. -/
theorem closer_of_flight {tr : Transport ν φ} {A : Http.Request → Reply → Prop} (sv : tr.Serves A)
    {p : Pool ν φ} {i : Nat} {ex : Exchange (Nat × φ)} {f : Nat × φ}
    (hi : p.tasks[i]? = some (.running (.exchange ex)))
    (hf : (Task.running (.exchange ex)).flight? = some f) :
    Closer sv.polls (p.poll tr i) p := by
  rw [Pool.poll_exchange hi]
  refine closer_set hi ?_ _
  rcases ex with ⟨s, g | (ticket | g) | g⟩
  · exact first_poll_closer sv i p.client s g
  · simp [Task.flight?] at hf
  · exact leading_poll_closer sv i p.client s g
  · exact replay_poll_closer sv i p.client s g

end Pool

/-! ## No run of requests gets stuck -/

namespace RequestInvariant

variable {A : Http.Request → Reply → Prop} {Allowed : Http.Request → Prop}
  (I : RequestInvariant ν A Allowed) {tr : Transport ν φ} (sv : tr.Serves A) {p : Pool ν φ}

/-- A follower whose wave has not ended waits on a leader whose renewal call is in flight. -/
theorem Holds.leader_of_waiting (hp : I.Holds sv.request p) (hr : p.Reachable tr) {k ticket : Nat}
    {s : Sending} (hk : p.tasks[k]? = some (.running (.exchange ⟨s, .renewing (.following ticket)⟩)))
    (ho : p.client.coordinator.outcome? ticket = none) :
    ∃ (j : Nat) (s' : Sending) (g : Nat × φ),
      p.tasks[j]? = some (.running (.exchange ⟨s', .renewing (.leading g)⟩)) := by
  have hco := hr.coherent
  have hwait := hco.follower_waits k ticket (Pool.phase_of_getElem? hk)
    (Coordinator.sentTo_eq_nil_iff.1 (by
      rw [Coordinator.outcome?_eq_head?, List.head?_eq_none_iff] at ho
      exact ho))
  -- the wave runs, so some task leads it
  obtain ⟨j, hj⟩ := hco.refreshing_iff.1 (hco.waiters_refreshing (List.ne_nil_of_mem hwait))
  obtain ⟨w, g, hw, hren⟩ := Pool.exists_of_phase_leads hj
  obtain ⟨q', hs', -⟩ := hp.tasks j _ hw
  -- a task making a request leads from within its exchange
  rcases w with ⟨s', g' | r' | g'⟩ | r'
  · simp [Work.renewal?] at hren
  · simp only [Work.renewal?, Option.some.injEq] at hren
    subst hren
    exact ⟨j, s', g, hw⟩
  · simp [Work.renewal?] at hren
  · exact hs'.elim

/-- While some task has no answer, a poll brings the pool closer to the end. -/
theorem Holds.exists_closer (hp : I.Holds sv.request p) (hr : p.Reachable tr) (hn : ¬ p.Answered) :
    ∃ i, Pool.Closer sv.polls (p.poll tr i) p := by
  obtain ⟨t, ht, hnot⟩ : ∃ t ∈ p.tasks, ¬ ∃ r, t = .replied r := by
    simpa [Pool.Answered] using hn
  obtain ⟨k, hk⟩ := List.mem_iff_getElem?.1 ht
  obtain ⟨q, hs, -⟩ := hp.tasks k t hk
  -- a task without its answer is a request under way
  rcases t with (ex | r) | r | r | _
  · rcases ex with ⟨s, f | (ticket | f) | f⟩
    · exact ⟨k, Pool.closer_of_flight sv hk rfl⟩
    · rcases ho : p.client.coordinator.outcome? ticket with _ | o
      -- the follower waits on a running wave, whose leader has its renewal call in flight
      · obtain ⟨j, s', g, hj⟩ := hp.leader_of_waiting I sv hr hk ho
        exact ⟨j, Pool.closer_of_flight sv hj rfl⟩
      · refine ⟨k, ?_⟩
        rw [Pool.poll_exchange hk]
        exact Pool.closer_set hk (following_poll_closer sv k p.client s ho) _
    · exact ⟨k, Pool.closer_of_flight sv hk rfl⟩
    · exact ⟨k, Pool.closer_of_flight sv hk rfl⟩
  · exact hs.elim
  · exact absurd ⟨r, rfl⟩ hnot
  · exact hs.elim
  · exact hs.elim

/-- **Every request gets its answer.** Over a transport that answers every request after
finitely many polls, from every reachable pool where the invariant holds, some polls bring every
task to its answer. -/
theorem Holds.answered (hp : I.Holds sv.request p) (hr : p.Reachable tr) :
    ∃ is : List Nat, (p.run tr (is.map .poll)).Answered := by
  -- induction on the rank of the pool, and within one rank on the polls to go
  induction hn : p.rank using Nat.strongRecOn generalizing p with
  | _ n ihn =>
    induction hm : p.pollsLeft sv.polls using Nat.strongRecOn generalizing p with
    | _ m ihm =>
      by_cases hdone : p.Answered
      · exact ⟨[], hdone⟩
      obtain ⟨i, hi⟩ := hp.exists_closer I sv hr hdone
      have hp' := Holds.poll I sv hp i
      have hr' : (p.poll tr i).Reachable tr := .step (.poll i) hr
      obtain ⟨is, his⟩ : ∃ is : List Nat, ((p.poll tr i).run tr (is.map .poll)).Answered := by
        rcases hi with hlt | ⟨heq, hlt⟩
        · exact ihn _ (hn ▸ hlt) hp' hr' rfl
        · exact ihm _ (hm ▸ hlt) hp' hr' (heq.trans hn) rfl
      exact ⟨i :: is, his⟩

end RequestInvariant

end BearerSession.Client
