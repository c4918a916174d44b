import BearerSession.Proofs.RequestPath

/-!
# Requests that run together

Tasks sharing a client make requests with renewal on, and their steps interleave in any order.
An invariant of such runs is proved one task at a time, in the manner of rely and guarantee. A
`RequestInvariant` says what holds of the client between two steps (`Inv`), what holds of a task
at each point of its path (`At`), and what a move of one task may change for the others
(`Rely`). Each move of a task keeps `Inv` where its task rests, carries its own `At` along, and
changes only what the others rely on; what they rely on keeps their `At` where they rest.

Then in every run of requests and polls, `Inv` holds of the client and `At` of every task where
it stands (`RequestInvariant.Holds.run`).
-/

namespace BearerSession.Client

open Relation

variable {ν φ : Type}

/-! ## Where a request rests -/

/-- The points where a request waits between two steps of its task: its first attempt, renewal
call or replay in flight, following a wave, or answered. -/
def Point.Resting : Point → Prop
  | .first _ _ => True
  | .following _ => True
  | .leading _ => True
  | .replay _ => True
  | .done _ => True
  | _ => False

/-- Task `t` makes the request `q`, with renewal on when `renews`: it is under way with it, or
it has its answer. -/
def Task.Sends (q : Http.Request) (renews : Bool) : Task φ → Prop
  | .running (.exchange ex) => ex.sending.request = q ∧ ex.sending.renews = renews
  | .replied _ => True
  | _ => False

/-- A task that makes a request rests where it stands. -/
theorem Task.Sends.resting {t : Task (Nat × φ)} {q : Http.Request} {renews : Bool}
    (h : t.Sends q renews) : t.point.Resting := by
  rcases t with (⟨s, f | r | f⟩ | r) | r | t | _
  · trivial
  · rcases r with ticket | f <;> trivial
  · trivial
  · exact h.elim
  · trivial
  · exact h.elim
  · exact h.elim

section Sends

variable (tr : Transport ν φ) (s : Sending) (c : Client ν)

theorem replay_sends (fresh : AccessToken) :
    (sendStep (replay tr s fresh c)).2.Sends s.request s.renews := by
  unfold replay
  split
  next _ net sent _ =>
    cases sent with
    | pending f => exact ⟨rfl, rfl⟩
    | ready r => trivial

theorem renewed_sends (x : Client ν × Poll (Renewal φ) Renewed) :
    (sendStep (renewed tr s x)).2.Sends s.request s.renews := by
  rcases x with ⟨c', r | err | fresh⟩
  · exact ⟨rfl, rfl⟩
  · trivial
  · exact replay_sends tr s c' fresh

theorem answered_sends (reply : Reply) :
    (sendStep (answered tr s reply c)).2.Sends s.request s.renews := by
  unfold answered
  split
  · trivial
  · split
    · exact renewed_sends tr s _
    · trivial

/-- A request goes out as the request it is. -/
theorem start_sends (q : Http.Request) (renews : Bool) :
    (sendStep (Client.start tr q renews c)).2.Sends q renews := by
  unfold Client.start
  generalize (if renews then c.store.accessToken else .ok none :
    Except Failure (Option AccessToken)) = token
  cases token with
  | error err => trivial
  | ok token =>
    dsimp only
    cases token with
    | none =>
      split
      next => exact ⟨rfl, rfl⟩
      next _ reply _ => exact answered_sends tr _ _ reply
    | some t =>
      split
      next => exact ⟨rfl, rfl⟩
      next _ reply _ => exact answered_sends tr _ _ reply

/-- A request under way stays the request it is. -/
theorem Exchange.poll_sends (ex : Exchange φ) :
    (sendStep (ex.poll tr c)).2.Sends ex.sending.request ex.sending.renews := by
  rcases ex with ⟨s, f | r | f⟩
  · unfold Exchange.poll
    dsimp only
    split
    next => exact ⟨rfl, rfl⟩
    next _ reply _ => exact answered_sends tr s _ reply
  · exact renewed_sends tr s _
  · unfold Exchange.poll
    dsimp only
    split
    next => exact ⟨rfl, rfl⟩
    next => trivial

end Sends

/-! ## Moves put down only their own requests -/

section Growth

variable {A : Http.Request → Reply → Prop} {q : Http.Request} {k : Nat}

/-- A move adds to the ledger only requests of its own task. -/
theorem Advance.sent_append {y y' : Client (ν × Ledger) × Point} (h : Advance A q k y y') :
    ∃ new, y'.1.net.2.sent = y.1.net.2.sent ++ new ∧ ∀ z ∈ new, z.1 = k := by
  cases h with
  | send n _ => exact ⟨[_], rfl, by simp⟩
  | renew n _ => exact ⟨[_], rfl, by simp⟩
  | resend n => exact ⟨[_], rfl, by simp⟩
  | conclude n r _ _ hc =>
    have hnet := congrArg (fun x => x.1.net) hc
    simp only [conclude_net] at hnet
    exact ⟨[], by simp [← hnet], by simp⟩
  | unread _ | wait _ | answer _ _ _ _ | follow _ | joinUnread _ _ | settled _ _ _ | elect _ _
  | unrenewable _ | receive _ | reanswer _ _ _ _ => exact ⟨[], by simp, by simp⟩

/-- A run of moves adds to the ledger only requests of its own task. -/
theorem sent_append_of_moves {y y' : Client (ν × Ledger) × Point}
    (h : ReflTransGen (Advance A q k) y y') :
    ∃ new, y'.1.net.2.sent = y.1.net.2.sent ++ new ∧ ∀ z ∈ new, z.1 = k := by
  induction h with
  | refl => exact ⟨[], by simp, by simp⟩
  | tail _ hstep ih =>
    obtain ⟨new, hs, hnew⟩ := ih
    obtain ⟨new', hs', hnew'⟩ := hstep.sent_append
    refine ⟨new ++ new', by rw [hs', hs, List.append_assoc], fun z hz => ?_⟩
    rcases List.mem_append.1 hz with hz | hz
    · exact hnew z hz
    · exact hnew' z hz

end Growth

/-- A flight stays of the request at its place when the ledger grows. -/
theorem Task.Flies.append {request : φ → Http.Request} {l l' : Ledger} {k : Nat}
    {t : Task (Nat × φ)} (h : t.Flies request l k) {new : List (Nat × Http.Request)}
    (hl : l'.sent = l.sent ++ new) : t.Flies request l' k := by
  intro f hf
  obtain ⟨q, hq, hreq⟩ := h f hf
  have hlt : f.1 < l.sent.length := (List.getElem?_eq_some_iff.1 hq).1
  exact ⟨q, by rw [hl, List.getElem?_append_left hlt]; exact hq, hreq⟩

namespace Pool

variable {tr : Transport ν φ} {p : Pool ν φ}

theorem spawn_send (q : Http.Request) (renews : Bool) :
    p.spawn tr (.send q renews) =
      ⟨(sendStep (Client.start (tr.logged p.tasks.length) q renews p.client)).1,
        p.tasks ++ [(sendStep (Client.start (tr.logged p.tasks.length) q renews p.client)).2]⟩ :=
  rfl

theorem poll_exchange {i : Nat} {ex : Exchange (Nat × φ)}
    (hw : p.tasks[i]? = some (.running (.exchange ex))) :
    p.poll tr i = ⟨(sendStep (ex.poll (tr.logged i) p.client)).1,
      p.tasks.set i (sendStep (ex.poll (tr.logged i) p.client)).2⟩ := by
  simp only [Pool.poll, hw]
  rfl

end Pool

/-! ## Rely and guarantee -/

/-- An invariant of tasks that make requests with renewal on, over a backend whose replies
`answers` allows, for the requests that `Allowed` admits. Between two steps `Inv` holds of the
client; `At k q x` holds of task `k` making `q` at the point `x`; a move of task `k` changes
for the others only what `Rely k` lets it. -/
structure RequestInvariant (ν : Type) (answers : Http.Request → Reply → Prop)
    (Allowed : Http.Request → Prop) where
  Inv : Client (ν × Ledger) → Prop
  At : Nat → Http.Request → Point → Client (ν × Ledger) → Prop
  Rely : Nat → Client (ν × Ledger) → Client (ν × Ledger) → Prop
  rely_refl : ∀ k c, Rely k c c
  rely_trans : ∀ {k c c' c''}, Rely k c c' → Rely k c' c'' → Rely k c c''
  /-- A new task that has sent nothing starts from `At`. -/
  begin : ∀ {k q c}, Inv c → Allowed q →
    (∀ x ∈ c.net.2.sent, x.1 ≠ k) →
    At k q .start c
  /-- Every move keeps `Inv` where its task rests, carries `At` along, and keeps to `Rely`. -/
  advance : ∀ {k q} {y y' : Client (ν × Ledger) × Point}, Allowed q →
    (y.2.Resting → Inv y.1) → At k q y.2 y.1 → Advance answers q k y y' →
    (y'.2.Resting → Inv y'.1) ∧ At k q y'.2 y'.1 ∧ Rely k y.1 y'.1
  /-- What a move of one task may change keeps `At` of every other task where it rests. -/
  stable : ∀ {k j q y c c'}, j ≠ k → Rely k c c' → Point.Resting y → At j q y c → At j q y c'

namespace RequestInvariant

variable {A : Http.Request → Reply → Prop} {Allowed : Http.Request → Prop}
  (I : RequestInvariant ν A Allowed)

/-- A run of moves keeps `Inv` where its task rests, carries `At` along, and keeps to `Rely`. -/
theorem moves {q : Http.Request} {k : Nat} (hq : Allowed q) {c : Client (ν × Ledger)} {x : Point}
    (hinv : x.Resting → I.Inv c) (hat : I.At k q x c) {y : Client (ν × Ledger) × Point}
    (h : ReflTransGen (Advance A q k) (c, x) y) :
    (y.2.Resting → I.Inv y.1) ∧ I.At k q y.2 y.1 ∧ I.Rely k c y.1 := by
  induction h with
  | refl => exact ⟨hinv, hat, I.rely_refl k c⟩
  | tail _ hstep ih =>
    obtain ⟨hinv', hat', hrely⟩ := ih
    obtain ⟨hinv'', hat'', hrely'⟩ := I.advance hq hinv' hat' hstep
    exact ⟨hinv'', hat'', I.rely_trans hrely hrely'⟩

/-- Task `k` makes an allowed first attempt `q` with renewal on, `At` holds of it where it
stands, and its flight, if any, is of the request at its place. -/
def TaskAt (request : φ → Http.Request) (c : Client (ν × Ledger)) (k : Nat) (t : Task (Nat × φ)) :
    Prop :=
  ∃ q, t.Sends q true ∧ q.attempt = .fresh ∧ Allowed q ∧ I.At k q t.point c ∧
    t.Flies request c.net.2 k

/-- A step of task `k` keeps `TaskAt` of every other task. -/
theorem TaskAt.frame {request : φ → Http.Request} {c c' : Client (ν × Ledger)} {j k : Nat}
    {t : Task (Nat × φ)} (hjk : j ≠ k) (hrely : I.Rely k c c') {new : List (Nat × Http.Request)}
    (hnew : c'.net.2.sent = c.net.2.sent ++ new) (ht : I.TaskAt request c j t) :
    I.TaskAt request c' j t := by
  obtain ⟨q, hs, ha, hq, hat, hf⟩ := ht
  exact ⟨q, hs, ha, hq, I.stable hjk hrely hs.resting hat, hf.append hnew⟩

/-- The invariant of a pool: `Inv` of its client, `TaskAt` of every task, and every request on
the ledger was sent by a task of the pool. -/
structure Holds (request : φ → Http.Request) (p : Pool ν φ) : Prop where
  inv : I.Inv p.client
  owners : ∀ x ∈ p.client.net.2.sent, x.1 < p.tasks.length
  tasks : ∀ k t, p.tasks[k]? = some t → I.TaskAt request p.client k t

/-- A step of task `k` from where its `At` holds ends where `Inv` and its `TaskAt` hold, keeps
to `Rely`, and adds to the ledger only requests of `k`. -/
theorem step {request : φ → Http.Request} {q : Http.Request} {k : Nat} (hq : Allowed q)
    (ha : q.attempt = .fresh) {c c' : Client (ν × Ledger)} {x : Point} {t' : Task (Nat × φ)}
    (hinv : x.Resting → I.Inv c) (hat : I.At k q x c) (hpath : Path A request q k c x c' t')
    (hs : t'.Sends q true) :
    I.Inv c' ∧ I.TaskAt request c' k t' ∧ I.Rely k c c' ∧
      ∃ new, c'.net.2.sent = c.net.2.sent ++ new ∧ ∀ z ∈ new, z.1 = k := by
  obtain ⟨hinv', hat', hrely⟩ := I.moves hq hinv hat hpath.moves
  exact ⟨hinv' hs.resting, ⟨q, hs, ha, hq, hat', hpath.flies⟩, hrely,
    sent_append_of_moves hpath.moves⟩

variable {tr : Transport ν φ} (sv : tr.Serves A) {p : Pool ν φ}

/-- After a step of task `k`, every request on the ledger still has its owner among the first
`n` tasks, when `k` is one of them. -/
theorem owners_step {c c' : Client (ν × Ledger)} {n k : Nat} (hk : k < n)
    (howners : ∀ x ∈ c.net.2.sent, x.1 < n) {new : List (Nat × Http.Request)}
    (hnew : c'.net.2.sent = c.net.2.sent ++ new) (hown : ∀ z ∈ new, z.1 = k) :
    ∀ x ∈ c'.net.2.sent, x.1 < n := by
  intro x hx
  rw [hnew] at hx
  rcases List.mem_append.1 hx with hx | hx
  · exact howners x hx
  · rw [hown x hx]
    exact hk

/-- Starting an allowed first attempt with renewal on keeps the invariant of a pool. -/
theorem Holds.spawn (hp : I.Holds sv.request p) {q : Http.Request} (ha : q.attempt = .fresh)
    (hq : Allowed q) : I.Holds sv.request (p.spawn tr (.send q true)) := by
  have hat := I.begin hp.inv hq fun x hx => Nat.ne_of_lt (hp.owners x hx)
  have hpath : Path A sv.request q p.tasks.length p.client .start
      (sendStep (Client.start (tr.logged p.tasks.length) q true p.client)).1
      (sendStep (Client.start (tr.logged p.tasks.length) q true p.client)).2 := by
    rw [sendStep_fst]
    exact start_path sv p.tasks.length q p.client ha
  obtain ⟨hinv, htask, hrely, new, hnew, hown⟩ := I.step hq ha (fun h : Point.Resting .start => False.elim h) hat hpath
    (start_sends _ p.client q true)
  rw [Pool.spawn_send]
  refine ⟨hinv, ?_, fun j t hj => ?_⟩
  · simpa only [List.length_append, List.length_singleton] using
      owners_step (Nat.lt_succ_self _) (fun x hx => Nat.lt_succ_of_lt (hp.owners x hx)) hnew hown
  · rw [List.getElem?_append] at hj
    split_ifs at hj with hlt
    · exact TaskAt.frame I (Nat.ne_of_lt hlt) hrely hnew (hp.tasks j t hj)
    -- the new task stands last
    · obtain ⟨hlt1, rfl⟩ := List.getElem?_eq_some_iff.1 hj
      have hjl : j = p.tasks.length := by
        simp only [List.length_singleton] at hlt1
        omega
      subst hjl
      simpa using htask

/-- Polling a task keeps the invariant of a pool. -/
theorem Holds.poll (hp : I.Holds sv.request p) (i : Nat) : I.Holds sv.request (p.poll tr i) := by
  rcases hw : p.tasks[i]? with _ | t
  · simp only [Pool.poll, hw]
    exact hp
  obtain ⟨q, hs, ha, hq, hat, hf⟩ := hp.tasks i t hw
  have hi : i < p.tasks.length := (List.getElem?_eq_some_iff.1 hw).1
  -- only an exchange under way makes a request and moves when polled
  rcases t with (ex | r) | r | r | _
  · obtain ⟨rfl, hren⟩ := hs
    have hsends := Exchange.poll_sends (tr.logged i) p.client ex
    rw [hren] at hsends
    have hpath : Path A sv.request ex.sending.request i p.client ex.point
        (sendStep (ex.poll (tr.logged i) p.client)).1 (sendStep (ex.poll (tr.logged i) p.client)).2 := by
      rw [sendStep_fst]
      exact Exchange.poll_path sv i ex p.client hren ha hf
    obtain ⟨hinv, htask, hrely, new, hnew, hown⟩ := I.step hq ha (fun _ => hp.inv) hat hpath hsends
    rw [Pool.poll_exchange hw]
    refine ⟨hinv, ?_, fun j t hj => ?_⟩
    · simpa only [List.length_set] using owners_step hi hp.owners hnew hown
    · by_cases hji : j = i
      · subst hji
        rw [List.getElem?_set_self hi, Option.some.injEq] at hj
        rw [← hj]
        exact htask
      · rw [List.getElem?_set_ne (Ne.symm hji)] at hj
        exact TaskAt.frame I hji hrely hnew (hp.tasks j t hj)
  · exact hs.elim
  all_goals
    simp only [Pool.poll, hw]
    exact hp

end RequestInvariant

/-- The steps of a run of requests: a task starts an allowed first attempt with renewal on, or
a task is polled. No task is dropped. -/
def Action.Requests (Allowed : Http.Request → Prop) : Action → Prop
  | .spawn (.send q renews) => renews = true ∧ q.attempt = .fresh ∧ Allowed q
  | .spawn _ => False
  | .poll _ => True
  | .drop _ => False

namespace RequestInvariant

variable {A : Http.Request → Reply → Prop} {Allowed : Http.Request → Prop}
  (I : RequestInvariant ν A Allowed) {tr : Transport ν φ} (sv : tr.Serves A) {p : Pool ν φ}

theorem Holds.step (hp : I.Holds sv.request p) {a : Action} (ha : a.Requests Allowed) :
    I.Holds sv.request (p.step tr a) := by
  cases a with
  | spawn call =>
    cases call with
    | send q renews =>
      obtain ⟨rfl, hfresh, hq⟩ := ha
      exact Holds.spawn I sv hp hfresh hq
    | ensureFresh _ => exact ha.elim
    | renewNow => exact ha.elim
  | poll i => exact Holds.poll I sv hp i
  | drop i => exact ha.elim

/-- **Rely and guarantee.** In every run of requests and polls from a pool where the invariant
holds, it holds after every step. -/
theorem Holds.run (hp : I.Holds sv.request p) {acts : List Action}
    (hacts : ∀ a ∈ acts, a.Requests Allowed) : I.Holds sv.request (p.run tr acts) := by
  induction acts generalizing p with
  | nil => exact hp
  | cons a acts ih =>
    exact ih (Holds.step I sv hp (hacts a List.mem_cons_self))
      (fun b hb => hacts b (List.mem_cons_of_mem a hb))

/-- A new client whose `Inv` holds holds the invariant of its pool. -/
theorem Holds.init {s₀ : Store} {e : Endpoints} {n₀ : ν}
    (h : I.Inv (Pool.init s₀ e n₀ : Pool ν φ).client) : I.Holds sv.request (Pool.init s₀ e n₀ : Pool ν φ) where
  inv := h
  owners := by simp [Pool.init]
  tasks := by simp [Pool.init]

end RequestInvariant

end BearerSession.Client
