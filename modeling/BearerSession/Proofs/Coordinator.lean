import BearerSession.Client.Pool

/-!
# Tickets of the coordinator

A follower waits on a ticket, and a wave that ends sends its outcome to every ticket that
waits. This file states when the tickets are in order (`Coordinator.Valid`): the waiting ones
are distinct and have had no answer, every ticket ever given is below `issued`, and no ticket
was ever answered twice. Giving a ticket and ending a wave keep the tickets in order, and
ending a wave sends its outcome to each waiting ticket exactly once (`sentTo_release`).

The second part reads off the client what joining a wave, concluding it and ending it do.
-/

namespace BearerSession

namespace Coordinator

/-- The outcomes sent to a ticket so far, in the order they were sent. -/
def sentTo (co : Coordinator) (ticket : Nat) : List RenewalOutcome :=
  (co.delivered.filter (·.1 == ticket)).map (·.2)

/-- The tickets of a coordinator are in order. -/
structure Valid (co : Coordinator) : Prop where
  waiters_nodup : co.waiters.Nodup
  waiters_lt : ∀ t ∈ co.waiters, t < co.issued
  delivered_lt : ∀ d ∈ co.delivered, d.1 < co.issued
  delivered_nodup : (co.delivered.map Prod.fst).Nodup
  waiting_unanswered : ∀ t ∈ co.waiters, t ∉ co.delivered.map Prod.fst

variable {co : Coordinator} {o : RenewalOutcome} {t : Nat}

@[simp] theorem enqueue_refreshing : co.enqueue.1.refreshing = co.refreshing := rfl
@[simp] theorem enqueue_waiters : co.enqueue.1.waiters = co.waiters ++ [co.issued] := rfl
@[simp] theorem enqueue_issued : co.enqueue.1.issued = co.issued + 1 := rfl
@[simp] theorem enqueue_delivered : co.enqueue.1.delivered = co.delivered := rfl
@[simp] theorem enqueue_ticket : co.enqueue.2 = co.issued := rfl

@[simp] theorem release_refreshing : (co.release o).refreshing = false := rfl
@[simp] theorem release_waiters : (co.release o).waiters = [] := rfl
@[simp] theorem release_issued : (co.release o).issued = co.issued := rfl
@[simp] theorem release_delivered :
    (co.release o).delivered = co.delivered ++ co.waiters.map (·, o) := rfl

theorem sentTo_eq_nil_iff : co.sentTo t = [] ↔ t ∉ co.delivered.map Prod.fst := by
  simp only [sentTo, List.map_eq_nil_iff, List.filter_eq_nil_iff, beq_iff_eq, List.mem_map,
    not_exists, not_and]

/-- The outcome a follower reads is the first one sent to its ticket. -/
theorem outcome?_eq_head? : co.outcome? t = (co.sentTo t).head? := by
  simp only [outcome?, sentTo, List.head?_map, List.head?_filter]

/-- Sending one outcome to each of the tickets `ws` sends it to `t` once per time `t` is
among them. -/
theorem sentTo_map_pair (ws : List Nat) :
    ((ws.map (·, o)).filter (·.1 == t)).map (·.2) = List.replicate (ws.count t) o := by
  induction ws with
  | nil => rfl
  | cons w ws ih =>
    by_cases hw : w = t
    · subst hw
      simp [ih, List.replicate_succ]
    · simp [ih, hw]

/-- Ending a wave sends its outcome to every waiting ticket and to no other. -/
theorem sentTo_release :
    (co.release o).sentTo t = co.sentTo t ++ List.replicate (co.waiters.count t) o := by
  simp only [sentTo, release_delivered, List.filter_append, List.map_append, sentTo_map_pair]

theorem enqueue_valid (h : co.Valid) : co.enqueue.1.Valid where
  waiters_nodup := by
    rw [enqueue_waiters, List.nodup_append]
    refine ⟨h.waiters_nodup, by simp, ?_⟩
    intro a ha b hb hab
    rw [List.mem_singleton] at hb
    exact Nat.lt_irrefl _ (hab ▸ hb ▸ h.waiters_lt a ha)
  waiters_lt := by
    intro w hw
    simp only [enqueue_waiters, List.mem_append, List.mem_singleton] at hw
    rcases hw with hw | rfl
    · exact Nat.lt_succ_of_lt (h.waiters_lt w hw)
    · exact Nat.lt_succ_self _
  delivered_lt d hd := Nat.lt_succ_of_lt (h.delivered_lt d hd)
  delivered_nodup := h.delivered_nodup
  waiting_unanswered := by
    intro w hw
    simp only [enqueue_waiters, List.mem_append, List.mem_singleton] at hw
    rcases hw with hw | rfl
    · exact h.waiting_unanswered w hw
    · simp only [enqueue_delivered, List.mem_map, not_exists, not_and]
      exact fun d hd hdw => Nat.lt_irrefl _ (hdw ▸ h.delivered_lt d hd)

theorem release_valid (h : co.Valid) : (co.release o).Valid where
  waiters_nodup := List.nodup_nil
  waiters_lt := by simp
  delivered_lt := by
    intro d hd
    simp only [release_delivered, List.mem_append, List.mem_map] at hd
    rcases hd with hd | ⟨w, hw, rfl⟩
    · exact h.delivered_lt d hd
    · exact h.waiters_lt w hw
  delivered_nodup := by
    have hkeys : (co.waiters.map (·, o)).map Prod.fst = co.waiters := by
      simp [List.map_map, Function.comp_def]
    simp only [release_delivered, List.map_append, hkeys]
    exact List.nodup_append.2 ⟨h.delivered_nodup, h.waiters_nodup,
      fun a ha b hb hab => h.waiting_unanswered b hb (hab ▸ ha)⟩
  waiting_unanswered := by simp

/-- Starting a wave changes no ticket. -/
theorem start_valid (h : co.Valid) : { co with refreshing := true }.Valid where
  waiters_nodup := h.waiters_nodup
  waiters_lt := h.waiters_lt
  delivered_lt := h.delivered_lt
  delivered_nodup := h.delivered_nodup
  waiting_unanswered := h.waiting_unanswered

/-- In order, a waiting ticket has no answer yet, and ending the wave sends it exactly one. -/
theorem sentTo_release_of_mem (h : co.Valid) (ht : t ∈ co.waiters) :
    (co.release o).sentTo t = [o] := by
  have hnone : co.sentTo t = [] := sentTo_eq_nil_iff.2 (h.waiting_unanswered t ht)
  have hone : co.waiters.count t = 1 := by rw [h.waiters_nodup.count, if_pos ht]
  rw [sentTo_release, hnone, hone]
  rfl

/-- Ending a wave sends nothing to a ticket that does not wait. -/
theorem sentTo_release_of_not_mem (ht : t ∉ co.waiters) :
    (co.release o).sentTo t = co.sentTo t := by
  rw [sentTo_release, List.count_eq_zero_of_not_mem ht]
  simp

end Coordinator

end BearerSession
