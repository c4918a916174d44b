import BearerSession.Proofs.Move
import Mathlib.Logic.Function.Basic

/-!
# Single-flight renewal

In every run of tasks sharing a client, in any order of their steps, with any replies and any
store, and with any task dropped where it waits, the coordinator agrees with the tasks
(`Coherent`): a wave runs exactly when one task leads it, no two tasks lead at once, followers
wait only while a wave runs, and every follower that has had no outcome has its ticket among
the waiting ones, once.

The invariant is proved from `Move` alone: each kind of move keeps it (`Coherent.move`), and
every step of a pool is a move of one task that leaves the others as they were
(`Pool.step_move`).
-/

namespace BearerSession.Client

variable {ν φ : Type}

/-- The coordinator agrees with the phases `ph` of the tasks. -/
structure Coherent (co : Coordinator) (ph : Nat → Phase) : Prop where
  /-- The tickets are in order. -/
  valid : co.Valid
  /-- No two tasks lead at once. -/
  one_leader : ∀ i j, ph i = .leads → ph j = .leads → i = j
  /-- A wave runs exactly when a task leads it. -/
  refreshing_iff : co.refreshing = true ↔ ∃ i, ph i = .leads
  /-- Followers wait only while a wave runs. -/
  waiters_refreshing : co.waiters ≠ [] → co.refreshing = true
  /-- Every ticket a task follows with was given. -/
  ticket_lt : ∀ i t, ph i = .follows t → t < co.issued
  /-- No two tasks follow with one ticket. -/
  ticket_unique : ∀ i j t, ph i = .follows t → ph j = .follows t → i = j
  /-- A follower that has had no outcome waits. -/
  follower_waits : ∀ i t, ph i = .follows t → t ∉ co.delivered.map Prod.fst → t ∈ co.waiters

namespace Coherent

variable {co co' : Coordinator} {ph : Nat → Phase} {k : Nat} {x : Phase}

theorem init : Coherent {} (fun _ => .idle) where
  valid := ⟨List.nodup_nil, by simp, by simp, List.nodup_nil, by simp⟩
  one_leader := by simp
  refreshing_iff := by simp
  waiters_refreshing := by simp
  ticket_lt := by simp
  ticket_unique := by simp
  follower_waits := by simp

/-- With no wave running, no task leads and no follower is left without its outcome. -/
theorem idle_facts (h : Coherent co ph) (hr : co.refreshing = false) :
    (∀ i, ph i ≠ .leads) ∧ co.waiters = [] ∧
      ∀ i t, ph i = .follows t → t ∈ co.delivered.map Prod.fst := by
  have hno : ∀ i, ph i ≠ .leads := fun i hi => by
    have := h.refreshing_iff.2 ⟨i, hi⟩
    rw [hr] at this
    exact Bool.false_ne_true this
  have hw : co.waiters = [] := by
    cases hws : co.waiters with
    | nil => rfl
    | cons w ws =>
      have := h.waiters_refreshing (by simp [hws])
      rw [hr] at this
      exact absurd this Bool.false_ne_true
  refine ⟨hno, hw, fun i t hi => ?_⟩
  by_cases hmem : t ∈ co.delivered.map Prod.fst
  · exact hmem
  · have := h.follower_waits i t hi hmem
    rw [hw] at this
    exact absurd this List.not_mem_nil

/-- After task `k` changes to `x`, a phase other than `x` is one that another task had. -/
theorem of_update_ne {i : Nat} {p : Phase} (hi : Function.update ph k x i = p) (hx : x ≠ p) :
    i ≠ k ∧ ph i = p := by
  rw [Function.update_apply] at hi
  split at hi
  · exact absurd hi hx
  · exact ⟨‹_›, hi⟩

/-- A task that did not lead and does not lead after its change leaves who leads as it was. -/
theorem exists_leads_update (hk : ph k ≠ .leads) (hx : x ≠ .leads) :
    (∃ i, Function.update ph k x i = .leads) ↔ ∃ i, ph i = .leads := by
  constructor
  · rintro ⟨i, hi⟩
    exact ⟨i, (of_update_ne hi hx).2⟩
  · rintro ⟨i, hi⟩
    have hik : i ≠ k := fun e => hk (e ▸ hi)
    exact ⟨i, by rw [Function.update_of_ne hik]; exact hi⟩

/-- Ending a wave keeps the invariant when no task leads afterwards and every follower's
ticket was given and has had its outcome or waits. -/
theorem of_release {o : RenewalOutcome} (hv : co.Valid) (hlead : ∀ i, ph i ≠ .leads)
    (hlt : ∀ i t, ph i = .follows t → t < co.issued)
    (huniq : ∀ i j t, ph i = .follows t → ph j = .follows t → i = j)
    (hans : ∀ i t, ph i = .follows t → t ∈ co.delivered.map Prod.fst ∨ t ∈ co.waiters) :
    Coherent (co.release o) ph where
  valid := Coordinator.release_valid hv
  one_leader i _ hi := absurd hi (hlead i)
  refreshing_iff := by simpa using hlead
  waiters_refreshing := by simp
  ticket_lt := hlt
  ticket_unique := huniq
  follower_waits := by
    intro i t hi hnot
    have hkeys : (co.waiters.map (·, o)).map Prod.fst = co.waiters := by
      simp [List.map_map, Function.comp_def]
    simp only [Coordinator.release_delivered, List.map_append, hkeys, List.mem_append] at hnot
    rcases hans i t hi with hd | hw
    · exact absurd (.inl hd) hnot
    · exact absurd (.inr hw) hnot

/-- A follower that stops following keeps the invariant. -/
theorem leave {t : Nat} (h : Coherent co ph) (hk : ph k = .follows t) :
    Coherent co (Function.update ph k .idle) where
  valid := h.valid
  one_leader i j hi hj := h.one_leader i j (of_update_ne hi nofun).2 (of_update_ne hj nofun).2
  refreshing_iff := h.refreshing_iff.trans (exists_leads_update (by simp [hk]) (by simp)).symm
  waiters_refreshing := h.waiters_refreshing
  ticket_lt i t' hi := h.ticket_lt i t' (of_update_ne hi nofun).2
  ticket_unique i j t' hi hj :=
    h.ticket_unique i j t' (of_update_ne hi nofun).2 (of_update_ne hj nofun).2
  follower_waits i t' hi := h.follower_waits i t' (of_update_ne hi nofun).2

/-- A task that follows the running wave with the next ticket keeps the invariant. -/
theorem follow (h : Coherent co ph) (hr : co.refreshing = true) (hk : ph k = .idle) :
    Coherent co.enqueue.1 (Function.update ph k (.follows co.issued)) where
  valid := Coordinator.enqueue_valid h.valid
  one_leader i j hi hj := h.one_leader i j (of_update_ne hi nofun).2 (of_update_ne hj nofun).2
  refreshing_iff := by
    rw [Coordinator.enqueue_refreshing]
    exact h.refreshing_iff.trans (exists_leads_update (by simp [hk]) (by simp)).symm
  waiters_refreshing _ := hr
  ticket_lt i t hi := by
    rw [Function.update_apply] at hi
    split at hi
    · simp only [Phase.follows.injEq] at hi
      simp [hi]
    · exact Nat.lt_succ_of_lt (h.ticket_lt i t hi)
  ticket_unique i j t hi hj := by
    -- the new ticket is above every ticket given before
    rw [Function.update_apply] at hi hj
    split at hi <;> split at hj
    · simp_all
    · simp only [Phase.follows.injEq] at hi
      exact absurd (hi ▸ h.ticket_lt j t hj) (Nat.lt_irrefl _)
    · simp only [Phase.follows.injEq] at hj
      exact absurd (hj ▸ h.ticket_lt i t hi) (Nat.lt_irrefl _)
    · exact h.ticket_unique i j t hi hj
  follower_waits i t hi hnot := by
    simp only [Coordinator.enqueue_waiters, List.mem_append, List.mem_singleton]
    rw [Function.update_apply] at hi
    split at hi
    · simp only [Phase.follows.injEq] at hi
      exact .inr hi.symm
    · exact .inl (h.follower_waits i t hi hnot)

/-- A task that starts a wave and waits for its renewal call keeps the invariant. -/
theorem elect (h : Coherent co ph) (hr : co.refreshing = false) :
    Coherent { co with refreshing := true } (Function.update ph k .leads) where
  valid := Coordinator.start_valid h.valid
  one_leader i j hi hj := by
    have hno := (h.idle_facts hr).1
    rw [Function.update_apply] at hi hj
    split at hi
    · split at hj
      · simp_all
      · exact absurd hj (hno j)
    · exact absurd hi (hno i)
  refreshing_iff := ⟨fun _ => ⟨k, Function.update_self k _ ph⟩, fun _ => rfl⟩
  waiters_refreshing _ := rfl
  ticket_lt i t hi := h.ticket_lt i t (of_update_ne hi nofun).2
  ticket_unique i j t hi hj :=
    h.ticket_unique i j t (of_update_ne hi nofun).2 (of_update_ne hj nofun).2
  follower_waits i t hi := h.follower_waits i t (of_update_ne hi nofun).2

/-- The leader that ends its wave, or goes away, keeps the invariant. -/
theorem settle {o : RenewalOutcome} (h : Coherent co ph) (hk : ph k = .leads) :
    Coherent (co.release o) (Function.update ph k .idle) := by
  refine of_release h.valid ?_ ?_ ?_ ?_
  · intro i hi
    obtain ⟨hik, hi'⟩ := of_update_ne hi nofun
    exact hik (h.one_leader i k hi' hk)
  · intro i t hi
    exact h.ticket_lt i t (of_update_ne hi nofun).2
  · intro i j t hi hj
    exact h.ticket_unique i j t (of_update_ne hi nofun).2 (of_update_ne hj nofun).2
  · intro i t hi
    have hi' := (of_update_ne hi nofun).2
    by_cases hd : t ∈ co.delivered.map Prod.fst
    · exact .inl hd
    · exact .inr (h.follower_waits i t hi' hd)

/-- A task that starts a wave and ends it in the same step keeps the invariant. -/
theorem once {o : RenewalOutcome} (h : Coherent co ph) (hr : co.refreshing = false)
    (hk : ph k = .idle) :
    Coherent ({ co with refreshing := true }.release o) (Function.update ph k .idle) := by
  obtain ⟨hno, -, hdone⟩ := h.idle_facts hr
  rw [← hk, Function.update_eq_self]
  exact of_release (Coordinator.start_valid h.valid) hno h.ticket_lt h.ticket_unique
    fun i t hi => .inl (hdone i t hi)

/-- A follower that has had no outcome waits with its ticket exactly once. -/
theorem count_waiters (h : Coherent co ph) {i t : Nat} (hi : ph i = .follows t)
    (hnone : co.sentTo t = []) : co.waiters.count t = 1 := by
  have hw : t ∈ co.waiters := h.follower_waits i t hi (Coordinator.sentTo_eq_nil_iff.1 hnone)
  rw [h.valid.waiters_nodup.count, if_pos hw]

/-- Every move keeps the invariant. -/
theorem move {s s' : Store} (h : Coherent co ph) (hm : Move co s (ph k) co' s' x) :
    Coherent co' (Function.update ph k x) := by
  generalize hpk : ph k = pk at hm
  cases hm with
  | stay => rw [← hpk, Function.update_eq_self]; exact h
  | leave => exact h.leave hpk
  | follow hr => exact h.follow hr hpk
  | elect hr => exact h.elect hr
  | once hr _ => exact h.once hr hpk
  | settle _ => exact h.settle hpk
  | abandon => exact h.settle hpk

end Coherent

/-! ## Every step of a pool is a move -/

namespace Pool

variable {p : Pool ν φ} {c : Client (ν × Ledger)} {t : Task (Nat × φ)}

section Read

variable {β : Type} (g : Task (Nat × φ) → β) (b : β) (ts : List (Task (Nat × φ)))

/-- What `g` reads of every task, `b` standing for a task that does not exist, changes at `i`
alone when a task is put in place of task `i`. -/
theorem read_set {i : Nat} (hi : i < ts.length) (t : Task (Nat × φ)) :
    (fun j => ((ts.set i t)[j]?.map g).getD b) = Function.update (fun j => (ts[j]?.map g).getD b) i (g t) := by
  funext j
  by_cases hji : j = i
  · subst hji
    simp [hi]
  · rw [Function.update_of_ne hji]
    simp only [List.getElem?_set_ne (Ne.symm hji)]

/-- A task put after the others is the only one where what `g` reads changes. -/
theorem read_append (t : Task (Nat × φ)) :
    (fun j => ((ts ++ [t])[j]?.map g).getD b) =
      Function.update (fun j => (ts[j]?.map g).getD b) ts.length (g t) := by
  funext j
  rcases Nat.lt_trichotomy j ts.length with hj | rfl | hj
  · rw [Function.update_of_ne (Nat.ne_of_lt hj)]
    simp only [List.getElem?_append_left hj]
  · simp
  · have hnone : (ts ++ [t])[j]? = none := List.getElem?_eq_none (by simp; omega)
    rw [Function.update_of_ne (Nat.ne_of_gt hj), hnone, List.getElem?_eq_none (Nat.le_of_lt hj)]

end Read

theorem phase_of_getElem? {i : Nat} (h : p.tasks[i]? = some t) : p.phase i = t.phase := by
  simp only [phase, h, Option.map_some, Option.getD_some]

theorem phase_of_length_le {i : Nat} (h : p.tasks.length ≤ i) : p.phase i = .idle := by
  simp only [phase, List.getElem?_eq_none h, Option.map_none, Option.getD_none]

/-- Putting a task in place of task `i` changes the phase of `i` alone. -/
theorem phase_set {i : Nat} (hi : i < p.tasks.length) :
    Pool.phase ⟨c, p.tasks.set i t⟩ = Function.update p.phase i t.phase :=
  read_set Task.phase .idle p.tasks hi t

/-- A task put after the others is the only one whose phase changes. -/
theorem phase_append :
    Pool.phase ⟨c, p.tasks ++ [t]⟩ = Function.update p.phase p.tasks.length t.phase :=
  read_append Task.phase .idle p.tasks t

variable (tr : Transport ν φ) (p : Pool ν φ)

/-- A new task takes its first step from outside any wave. -/
theorem spawn_move (call : Call) :
    ∃ x, Move p.client.coordinator p.client.store (p.phase p.tasks.length)
      (p.spawn tr call).client.coordinator (p.spawn tr call).client.store x ∧
      (p.spawn tr call).phase = Function.update p.phase p.tasks.length x := by
  refine ⟨(call.start (tr.logged p.tasks.length) p.client).2.phase, ?_, phase_append⟩
  rw [phase_of_length_le (Nat.le_refl _)]
  exact Call.start_move _ call p.client

/-- Polling task `i` moves that task alone. -/
theorem poll_move (i : Nat) :
    ∃ x, Move p.client.coordinator p.client.store (p.phase i)
      (p.poll tr i).client.coordinator (p.poll tr i).client.store x ∧
      (p.poll tr i).phase = Function.update p.phase i x := by
  unfold poll
  split
  next w hw =>
    have hi : i < p.tasks.length := (List.getElem?_eq_some_iff.1 hw).1
    refine ⟨_, ?_, phase_set hi⟩
    rw [phase_of_getElem? hw]
    exact Work.poll_move _ w p.client
  next => exact ⟨p.phase i, .stay, (Function.update_eq_self i p.phase).symm⟩

/-- Dropping task `i` moves that task alone, out of any wave. -/
theorem drop_move (i : Nat) :
    ∃ x, Move p.client.coordinator p.client.store (p.phase i)
      (p.drop i).client.coordinator (p.drop i).client.store x ∧
      (p.drop i).phase = Function.update p.phase i x := by
  unfold drop
  split
  next w hw =>
    have hi : i < p.tasks.length := (List.getElem?_eq_some_iff.1 hw).1
    refine ⟨_, ?_, phase_set hi⟩
    rw [phase_of_getElem? hw]
    exact Work.drop_move w p.client
  next => exact ⟨p.phase i, .stay, (Function.update_eq_self i p.phase).symm⟩

/-- Every step of a pool is a move of one task, and the other tasks stay as they were. -/
theorem step_move (a : Action) :
    ∃ k x, Move p.client.coordinator p.client.store (p.phase k)
      (p.step tr a).client.coordinator (p.step tr a).client.store x ∧
      (p.step tr a).phase = Function.update p.phase k x := by
  cases a with
  | spawn call => exact ⟨_, spawn_move tr p call⟩
  | poll i => exact ⟨i, poll_move tr p i⟩
  | drop i => exact ⟨i, drop_move p i⟩

end Pool

/-- In every reachable pool the coordinator agrees with the tasks. -/
theorem Pool.Reachable.coherent {tr : Transport ν φ} {p : Pool ν φ} (hp : p.Reachable tr) :
    Coherent p.client.coordinator p.phase := by
  induction hp with
  | init store endpoints net =>
    have hph : (Pool.init store endpoints net : Pool ν φ).phase = fun _ => .idle := by
      funext j
      simp [Pool.phase, Pool.init]
    rw [hph]
    exact Coherent.init
  | step a _ ih =>
    obtain ⟨k, x, hm, hph⟩ := Pool.step_move tr _ a
    rw [hph]
    exact ih.move hm

/-- **Single flight.** In every run, in any order of the tasks' steps and with any task dropped
where it waits: a wave runs exactly when a task leads it, and no two tasks lead at once, so at
most one renewal call is in flight; followers wait only while a wave runs; no two followers
share a ticket, and a follower that has had no outcome waits with its ticket exactly once. A
join fails only when no wave runs and the store cannot be read, and then changes nothing. -/
theorem Pool.Reachable.single_flight {tr : Transport ν φ} {p : Pool ν φ} (hp : p.Reachable tr) :
    (p.client.coordinator.refreshing = true ↔ ∃ i, p.phase i = .leads) ∧
    (∀ i j, p.phase i = .leads → p.phase j = .leads → i = j) ∧
    (p.client.coordinator.waiters ≠ [] → p.client.coordinator.refreshing = true) ∧
    (∀ i j t, p.phase i = .follows t → p.phase j = .follows t → i = j) ∧
    (∀ i t, p.phase i = .follows t → p.client.coordinator.sentTo t = [] →
      p.client.coordinator.waiters.count t = 1) ∧
    (∀ rejected c' e, p.client.join rejected = (c', .error e) ↔
      p.client.coordinator.refreshing = false ∧ p.client.store.accessToken = .error e ∧
        c' = p.client) := by
  have h := hp.coherent
  exact ⟨h.refreshing_iff, h.one_leader, h.waiters_refreshing, h.ticket_unique,
    fun i t hi hnone => h.count_waiters hi hnone, fun _ _ _ => join_eq_error_iff⟩

/-- A transport whose requests never come back. -/
def Transport.silent : Transport Unit Unit where
  send _ n := (n, .pending ())
  poll _ n := (n, .pending ())

/-- Two callers whose stored token `a` was refused, over a transport that never answers: the
first leads a wave and the second follows it. -/
def Pool.leaderAndFollower : Pool Unit Unit :=
  let refused : Call := .ensureFresh (some ⟨"a"⟩)
  ((Pool.init (.memory (some ⟨⟨"a"⟩, ⟨"b"⟩⟩)) {} ()).step Transport.silent (.spawn refused)).step
    Transport.silent (.spawn refused)

theorem Pool.leaderAndFollower_reachable : Pool.leaderAndFollower.Reachable Transport.silent := by
  unfold Pool.leaderAndFollower
  exact .step _ (.step _ (.init _ _ _))

theorem Pool.leaderAndFollower_single_flight :
    Pool.leaderAndFollower.Reachable Transport.silent ∧
    (Pool.leaderAndFollower.client.coordinator.refreshing = true ↔
      ∃ i, Pool.leaderAndFollower.phase i = .leads) ∧
    (∀ i j, Pool.leaderAndFollower.phase i = .leads → Pool.leaderAndFollower.phase j = .leads →
      i = j) ∧
    (Pool.leaderAndFollower.client.coordinator.waiters ≠ [] →
      Pool.leaderAndFollower.client.coordinator.refreshing = true) ∧
    (∀ i j t, Pool.leaderAndFollower.phase i = .follows t →
      Pool.leaderAndFollower.phase j = .follows t → i = j) ∧
    (∀ i t, Pool.leaderAndFollower.phase i = .follows t →
      Pool.leaderAndFollower.client.coordinator.sentTo t = [] →
      Pool.leaderAndFollower.client.coordinator.waiters.count t = 1) ∧
    (∀ rejected c' e, Pool.leaderAndFollower.client.join rejected = (c', .error e) ↔
      Pool.leaderAndFollower.client.coordinator.refreshing = false ∧
        Pool.leaderAndFollower.client.store.accessToken = .error e ∧
        c' = Pool.leaderAndFollower.client) :=
  ⟨Pool.leaderAndFollower_reachable, Pool.Reachable.single_flight Pool.leaderAndFollower_reachable⟩

example : Pool.leaderAndFollower.phase 0 = .leads ∧ Pool.leaderAndFollower.phase 1 = .follows 0 ∧
    Pool.leaderAndFollower.client.coordinator.waiters = [0] := by
  decide

end BearerSession.Client
