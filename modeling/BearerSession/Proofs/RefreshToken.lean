import BearerSession.Proofs.Traffic
import Mathlib.Data.List.Basic

/-!
# Sending a refresh token twice

A wave's leader sends the refresh token it reads from the store. A wave that ends on the reply
to its renewal call settles the store: the refresh token the reply issued is stored, or the
store is cleared. A wave whose leader is dropped while its call is in flight ends with the
store as it was, so the next wave sends the same refresh token once more.

That is the only way a refresh token goes out twice. If every write to the store succeeds
and is read back (`Store.Faithful`), the callers send nothing to the refresh path, and the
backend never issues one refresh token twice, then of any two renewal calls that carry one
refresh token, the earlier one never had its reply and the task that sent it was dropped
(`Pool.refresh_token_resent_only_after_drop`). The invariant behind it is `RenewalLog`: the
store holds no refresh token whose renewal call was answered.
-/

namespace BearerSession

/-! ## Stores whose writes hold -/

namespace Store

/-- The stores that writes make of `s`. -/
inductive Written (s : Store) : Store → Prop
  | refl : Written s s
  | set {s' : Store} (pair : Pair) : Written s s' → Written s (s'.set pair).1
  | clear {s' : Store} : Written s s' → Written s s'.clear.1

/-- Every write to `s`, or to a store that writes made of it, succeeds and is read back. -/
def Faithful (s : Store) : Prop :=
  ∀ s', s.Written s' →
    (∀ pair, (s'.set pair).2 = .ok () ∧ (s'.set pair).1.get = .ok (some pair)) ∧
      s'.clear.2 = .ok () ∧ s'.clear.1.get = .ok none

/-- The refresh token a store holds, as a list. -/
def refreshTokens (s : Store) : List RefreshToken :=
  match s.refreshToken with
  | .ok (some t) => [t]
  | _ => []

variable {s₀ s : Store} {t : RefreshToken}

theorem mem_refreshTokens : t ∈ s.refreshTokens ↔ s.refreshToken = .ok (some t) := by
  unfold refreshTokens
  split
  next t' h => simp [h, eq_comm]
  next h => simp only [List.not_mem_nil, false_iff]; exact fun h' => h t h'

/-- Writes to a store in memory stay in memory, and it holds what was written last. -/
theorem faithful_memory (slot : Option Pair) : (Store.memory slot).Faithful := by
  intro s' hw
  have hmem : ∃ slot', s' = .memory slot' := by
    induction hw with
    | refl => exact ⟨slot, rfl⟩
    | set pair _ ih =>
      obtain ⟨slot', rfl⟩ := ih
      exact ⟨some pair, rfl⟩
    | clear _ ih =>
      obtain ⟨slot', rfl⟩ := ih
      exact ⟨none, rfl⟩
  obtain ⟨slot', rfl⟩ := hmem
  exact ⟨fun pair => ⟨rfl, rfl⟩, rfl, rfl⟩

theorem Faithful.set_refreshToken (hf : s₀.Faithful) (hw : s₀.Written s) (pair : Pair) :
    (s.set pair).1.refreshToken = .ok (some pair.refresh) := by
  simp [refreshToken, ((hf s hw).1 pair).2, Except.map]

theorem Faithful.set_ok (hf : s₀.Faithful) (hw : s₀.Written s) (pair : Pair) :
    (s.set pair).2 = .ok () :=
  ((hf s hw).1 pair).1

theorem Faithful.clear_refreshToken (hf : s₀.Faithful) (hw : s₀.Written s) :
    s.clear.1.refreshToken = .ok none := by
  simp [refreshToken, (hf s hw).2.2, Except.map]

end Store

namespace Endpoints

variable {e : Endpoints} {t t' : RefreshToken}

@[simp] theorem refreshRequest_target : (e.refreshRequest t).target = e.refresh := rfl

/-- The renewal call names its refresh token. -/
theorem refreshRequest_injective (h : e.refreshRequest t = e.refreshRequest t') : t = t' := by
  simp only [refreshRequest, Http.Request.withBody, Http.Request.new, Http.Request.mk.injEq,
    Option.some.injEq, Json.Value.object.injEq, List.cons.injEq, Prod.mk.injEq,
    Json.Value.string.injEq, true_and, and_true] at h
  cases t
  cases t'
  simp only [RefreshToken.mk.injEq]
  exact h

/-- A request sent elsewhere is no renewal call. -/
theorem ne_refreshRequest {q : Http.Request} (hq : q.target ≠ e.refresh) (t : RefreshToken) :
    q ≠ e.refreshRequest t :=
  fun h => hq (h ▸ rfl)

end Endpoints

namespace Client

open Relation

variable {ν φ : Type}

/-- Settling a faithful store on a reply stores the refresh token the reply carries, or none. -/
theorem SettledBy.refreshToken {r : Reply} {s₀ s s' : Store} (hf : s₀.Faithful)
    (hw : s₀.Written s) (h : SettledBy r s s') :
    s₀.Written s' ∧ (s'.refreshToken = .ok none ∨
      ∃ pair, Reply.pair? r = some pair ∧ s'.refreshToken = .ok (some pair.refresh)) := by
  cases h with
  | stored pair hpair _ => exact ⟨.set pair hw, .inr ⟨pair, hpair, hf.set_refreshToken hw pair⟩⟩
  | cleared => exact ⟨.clear hw, .inl (hf.clear_refreshToken hw)⟩
  | unsaved pair _ hfail => exact absurd (hf.set_ok hw pair) hfail

/-! ## The ledger -/

namespace Ledger

variable {l l' : Ledger} {k i j : Nat} {q : Http.Request} {r : Reply} {path : String}

/-- The request at place `i` has had its reply. -/
def Answered (l : Ledger) (i : Nat) : Prop := ∃ r, (i, r) ∈ l.replies

/-- The refresh tokens the backend issued: those of the pairs in the replies to requests
sent to `path`. -/
def issued (l : Ledger) (path : String) : List RefreshToken :=
  l.replies.filterMap fun ir =>
    if (l.sent[ir.1]?.map fun kq => kq.2.target) = some path then
      (Reply.pair? ir.2).map Pair.refresh
    else none

/-- The ledger `l'` goes on from `l`. -/
def Extends (l l' : Ledger) : Prop := l.sent <+: l'.sent ∧ l.replies <+: l'.replies

@[simp] theorem send_sent : (l.send k q).sent = l.sent ++ [(k, q)] := rfl
@[simp] theorem send_replies : (l.send k q).replies = l.replies := rfl
@[simp] theorem reply_sent : (l.reply i r).sent = l.sent := rfl
@[simp] theorem reply_replies : (l.reply i r).replies = l.replies ++ [(i, r)] := rfl

theorem getElem?_send_of_lt (h : i < l.sent.length) : (l.send k q).sent[i]? = l.sent[i]? :=
  List.getElem?_append_left h

/-- An entry of the ledger after a send is an entry from before, or the new one. -/
theorem getElem?_send {x : Nat × Http.Request} (h : (l.send k q).sent[i]? = some x) :
    l.sent[i]? = some x ∨ (i = l.sent.length ∧ x = (k, q)) := by
  rw [send_sent, List.getElem?_append] at h
  split at h
  · exact .inl h
  · next hle =>
    have hi : i - l.sent.length = 0 := by
      have := (List.getElem?_eq_some_iff.1 h).1
      simp only [List.length_singleton] at this
      omega
    rw [hi] at h
    simp only [List.getElem?_cons_zero, Option.some.injEq] at h
    exact .inr ⟨by omega, h.symm⟩

theorem answered_reply : (l.reply j r).Answered i ↔ l.Answered i ∨ i = j := by
  simp only [Answered, reply_replies, List.mem_append, List.mem_singleton, Prod.mk.injEq]
  constructor
  · rintro ⟨r', hr | ⟨rfl, -⟩⟩
    · exact .inl ⟨r', hr⟩
    · exact .inr rfl
  · rintro (⟨r', hr⟩ | rfl)
    · exact ⟨r', .inl hr⟩
    · exact ⟨r, .inr ⟨rfl, rfl⟩⟩

theorem Extends.refl (l : Ledger) : l.Extends l := ⟨List.prefix_refl _, List.prefix_refl _⟩

theorem Extends.trans {l'' : Ledger} (h : l.Extends l') (h' : l'.Extends l'') : l.Extends l'' :=
  ⟨h.1.trans h'.1, h.2.trans h'.2⟩

theorem extends_send : l.Extends (l.send k q) := ⟨List.prefix_append _ _, List.prefix_refl _⟩

theorem extends_reply : l.Extends (l.reply i r) := ⟨List.prefix_refl _, List.prefix_append _ _⟩

/-- A filter that keeps less keeps a sublist. -/
theorem filterMap_sublist_of_le {α β : Type} {g g' : α → Option β}
    (h : ∀ x, g x = none ∨ g x = g' x) (xs : List α) : List.Sublist (xs.filterMap g) (xs.filterMap g') := by
  induction xs with
  | nil => exact .slnil
  | cons x xs ih =>
    rcases h x with hx | hx
    · rw [List.filterMap_cons_none hx]
      cases hx' : g' x with
      | none => rw [List.filterMap_cons_none hx']; exact ih
      | some y => rw [List.filterMap_cons_some hx']; exact ih.cons y
    · cases hx' : g' x with
      | none =>
        rw [List.filterMap_cons_none hx', List.filterMap_cons_none (hx.trans hx')]
        exact ih
      | some y =>
        rw [List.filterMap_cons_some hx', List.filterMap_cons_some (hx.trans hx')]
        exact ih.cons_cons y

/-- A ledger that goes on issues every token it issued before. -/
theorem issued_sublist (h : l.Extends l') : List.Sublist (l.issued path) (l'.issued path) := by
  unfold issued
  refine (filterMap_sublist_of_le ?_ l.replies).trans (h.2.sublist.filterMap _)
  intro ir
  -- a place that has an entry keeps it
  cases hi : l.sent[ir.1]? with
  | none => exact .inl (by simp)
  | some kq =>
    obtain ⟨rest, hrest⟩ := h.1
    have hlt : ir.1 < l.sent.length := (List.getElem?_eq_some_iff.1 hi).1
    have hi' : l'.sent[ir.1]? = some kq := by rw [← hrest, List.getElem?_append_left hlt, hi]
    exact .inr (by simp [hi'])

/-- A send issues nothing, while every reply is to an entry already there. -/
theorem issued_send (hlt : ∀ ir ∈ l.replies, ir.1 < l.sent.length) :
    (l.send k q).issued path = l.issued path := by
  unfold issued
  rw [send_replies]
  refine List.filterMap_congr fun ir hir => ?_
  rw [getElem?_send_of_lt (hlt ir hir)]

/-- A reply to a request sent to `path` issues the refresh token of the pair it carries. -/
theorem issued_reply {x : Nat × Http.Request} (hi : l.sent[i]? = some x) (hx : x.2.target = path) :
    (l.reply i r).issued path = l.issued path ++ ((Reply.pair? r).map Pair.refresh).toList := by
  unfold issued
  rw [reply_replies, List.filterMap_append]
  congr 1
  cases h : (Reply.pair? r).map Pair.refresh <;> simp [hi, hx, h]

/-- A reply to a request sent elsewhere issues nothing. -/
theorem issued_reply_other {x : Nat × Http.Request} (hi : l.sent[i]? = some x)
    (hx : x.2.target ≠ path) : (l.reply i r).issued path = l.issued path := by
  unfold issued
  rw [reply_replies, List.filterMap_append]
  simp [hi, hx]
  rfl

theorem getElem?_send_of_some {x : Nat × Http.Request} (h : l.sent[i]? = some x) :
    (l.send k q).sent[i]? = some x := by
  rw [getElem?_send_of_lt (List.getElem?_eq_some_iff.1 h).1, h]

/-- The new entry of a send has had no reply yet. -/
theorem not_answered_length (hlt : ∀ ir ∈ l.replies, ir.1 < l.sent.length) :
    ¬ l.Answered l.sent.length :=
  fun ⟨_, hr⟩ => Nat.lt_irrefl _ (hlt _ hr)

end Ledger

/-! ## Flights after one task's change -/

namespace Hold

variable {H : Nat → Hold} {k m : Nat} {h h' : Hold}

/-- Once task `k` holds no flight, every flight held is one that was held before. -/
theorem eq_of_update_none (hh : h ≠ .none) (hm : Function.update H k .none m = h) : H m = h := by
  rw [Function.update_apply] at hm
  split at hm
  · exact absurd hm.symm hh
  · exact hm

/-- A flight outlives a change of task `k`'s, when task `k` did not hold it. -/
theorem update_keeps (hk : H k ≠ h) (hm : H m = h) : Function.update H k h' m = h := by
  have hmk : m ≠ k := fun e => hk (e ▸ hm)
  rw [Function.update_of_ne hmk, hm]

end Hold

/-! ## The invariant -/

section Invariant

variable {e : Endpoints} {s₀ : Store}

/-- The renewal calls on the ledger `l` agree with the store `s`, the flights `H` of the
tasks and the tasks `D` that were dropped. -/
structure RenewalLog (e : Endpoints) (s₀ : Store) (l : Ledger) (s : Store) (H : Nat → Hold)
    (D : Nat → Prop) : Prop where
  /-- The store is what writes made of the first one. -/
  written : s₀.Written s
  /-- Every reply is to a request on the ledger. -/
  replies_lt : ∀ ir ∈ l.replies, ir.1 < l.sent.length
  /-- Every refresh token sent was in the first store, or issued. -/
  sent_known : ∀ (i k : Nat) (t : RefreshToken), l.sent[i]? = some (k, e.refreshRequest t) →
    t ∈ s₀.refreshTokens ++ l.issued e.refresh
  /-- So is the one stored. -/
  store_known : ∀ t : RefreshToken, s.refreshToken = .ok (some t) → t ∈ s₀.refreshTokens ++ l.issued e.refresh
  /-- No renewal call that carried the stored refresh token has had its reply. -/
  store_fresh : ∀ t : RefreshToken, s.refreshToken = .ok (some t) →
    ∀ i k : Nat, l.sent[i]? = some (k, e.refreshRequest t) → ¬ l.Answered i
  /-- A caller's request in flight is on the ledger, from its task, off the refresh path. -/
  user_flight : ∀ k i : Nat, H k = .user i → ∃ q, l.sent[i]? = some (k, q) ∧ q.target ≠ e.refresh
  /-- A renewal call in flight is on the ledger, from its task. -/
  renewal_flight : ∀ k i : Nat, H k = .renewal i → ∃ t, l.sent[i]? = some (k, e.refreshRequest t)
  /-- A renewal call without its reply is in flight, or its task was dropped. -/
  unanswered : ∀ (i k : Nat) (t : RefreshToken), l.sent[i]? = some (k, e.refreshRequest t) →
    l.Answered i ∨ D k ∨ H k = .renewal i
  /-- A refresh token sent twice went first in a call that never had its reply, from a task
  that was dropped. -/
  resent : ∀ (i j k k' : Nat) (t : RefreshToken), i < j → l.sent[i]? = some (k, e.refreshRequest t) →
    l.sent[j]? = some (k', e.refreshRequest t) → ¬ l.Answered i ∧ D k
  /-- A dropped task holds no flight. -/
  dropped_none : ∀ k : Nat, D k → H k = .none

namespace RenewalLog

variable {l : Ledger} {s : Store} {H : Nat → Hold} {D : Nat → Prop} {k : Nat}

/-- Before anything is sent, the invariant holds of the first store. -/
theorem init : RenewalLog e s₀ {} s₀ (fun _ => .none) (fun _ => False) where
  written := .refl
  replies_lt := by simp
  sent_known := by simp
  store_known _ ht := List.mem_append_left _ (Store.mem_refreshTokens.2 ht)
  store_fresh := by simp
  user_flight := by simp
  renewal_flight := by simp
  unanswered := by simp
  resent := by simp
  dropped_none := by simp

/-- A step of a task that was not dropped leaves every dropped task without a flight. -/
theorem dropped_none_update (hinv : RenewalLog e s₀ l s H D) (hk : ¬ D k) (h : Hold) :
    ∀ m, D m → Function.update H k h m = .none := by
  intro m hm
  have hmk : m ≠ k := fun e => hk (e ▸ hm)
  rw [Function.update_of_ne hmk]
  exact hinv.dropped_none m hm

/-- Sending a caller's request keeps the invariant. -/
theorem send {q : Http.Request} (hinv : RenewalLog e s₀ l s H D) (hk : ¬ D k)
    (hnone : H k = .none) (hq : q.target ≠ e.refresh) :
    RenewalLog e s₀ (l.send k q) s (Function.update H k (.user l.sent.length)) D where
  written := hinv.written
  replies_lt ir hir := by
    have := hinv.replies_lt ir hir
    simp only [Ledger.send_sent, List.length_append, List.length_singleton]
    omega
  sent_known i k' t hi := by
    rw [Ledger.issued_send hinv.replies_lt]
    rcases Ledger.getElem?_send hi with hi | ⟨-, hx⟩
    · exact hinv.sent_known i k' t hi
    · exact absurd (Prod.mk.inj hx).2.symm (Endpoints.ne_refreshRequest hq t)
  store_known t ht := by
    rw [Ledger.issued_send hinv.replies_lt]
    exact hinv.store_known t ht
  store_fresh t ht i k' hi := by
    rcases Ledger.getElem?_send hi with hi | ⟨-, hx⟩
    · exact hinv.store_fresh t ht i k' hi
    · exact absurd (Prod.mk.inj hx).2.symm (Endpoints.ne_refreshRequest hq t)
  user_flight m i hm := by
    rw [Function.update_apply] at hm
    split at hm
    · next hmk =>
      cases hm
      exact ⟨q, by simp [hmk], hq⟩
    · obtain ⟨q', hi, hq'⟩ := hinv.user_flight m i hm
      exact ⟨q', Ledger.getElem?_send_of_some hi, hq'⟩
  renewal_flight m i hm := by
    rw [Function.update_apply] at hm
    split at hm
    · cases hm
    · obtain ⟨t, hi⟩ := hinv.renewal_flight m i hm
      exact ⟨t, Ledger.getElem?_send_of_some hi⟩
  unanswered i k' t hi := by
    rcases Ledger.getElem?_send hi with hi | ⟨-, hx⟩
    · rcases hinv.unanswered i k' t hi with ha | hd | hh
      · exact .inl ha
      · exact .inr (.inl hd)
      · -- the task that sends held no flight, so the call is another task's
        exact .inr (.inr (Hold.update_keeps (by simp [hnone]) hh))
    · exact absurd (Prod.mk.inj hx).2.symm (Endpoints.ne_refreshRequest hq t)
  resent i j k' k'' t hij hi hj := by
    rcases Ledger.getElem?_send hj with hj | ⟨-, hx⟩
    · have hlt : i < l.sent.length :=
        Nat.lt_trans hij (List.getElem?_eq_some_iff.1 hj).1
      rw [Ledger.getElem?_send_of_lt hlt] at hi
      exact hinv.resent i j k' k'' t hij hi hj
    · exact absurd (Prod.mk.inj hx).2.symm (Endpoints.ne_refreshRequest hq t)
  dropped_none := hinv.dropped_none_update hk _

/-- Two places on the ledger that hold a caller's request and a renewal call differ. -/
theorem ne_of_user {q : Http.Request} {i i₀ k k' : Nat} {t : RefreshToken}
    (hi₀ : l.sent[i₀]? = some (k, q)) (hq : q.target ≠ e.refresh)
    (hi : l.sent[i]? = some (k', e.refreshRequest t)) : i ≠ i₀ := by
  rintro rfl
  rw [hi₀, Option.some.injEq, Prod.mk.injEq] at hi
  exact Endpoints.ne_refreshRequest hq t hi.2

/-- The reply to a caller's request keeps the invariant. -/
theorem reply {i₀ : Nat} {r : Reply} (hinv : RenewalLog e s₀ l s H D) (hhold : H k = .user i₀) :
    RenewalLog e s₀ (l.reply i₀ r) s (Function.update H k .none) D := by
  obtain ⟨q, hi₀, hq⟩ := hinv.user_flight k i₀ hhold
  have hissued : (l.reply i₀ r).issued e.refresh = l.issued e.refresh :=
    Ledger.issued_reply_other hi₀ hq
  have hans : ∀ i k' t, l.sent[i]? = some (k', e.refreshRequest t) →
      ((l.reply i₀ r).Answered i ↔ l.Answered i) := by
    intro i k' t hi
    rw [Ledger.answered_reply]
    exact or_iff_left (ne_of_user hi₀ hq hi)
  refine ⟨hinv.written, ?_, ?_, ?_, ?_, ?_, ?_, ?_, ?_, ?_⟩
  · intro ir hir
    simp only [Ledger.reply_replies, List.mem_append, List.mem_singleton] at hir
    rcases hir with hir | rfl
    · exact hinv.replies_lt ir hir
    · exact (List.getElem?_eq_some_iff.1 hi₀).1
  · intro i k' t hi
    rw [hissued]
    exact hinv.sent_known i k' t hi
  · intro t ht
    rw [hissued]
    exact hinv.store_known t ht
  · intro t ht i k' hi
    rw [hans i k' t hi]
    exact hinv.store_fresh t ht i k' hi
  · intro m i hm
    exact hinv.user_flight m i (Hold.eq_of_update_none nofun hm)
  · intro m i hm
    exact hinv.renewal_flight m i (Hold.eq_of_update_none nofun hm)
  · intro i k' t hi
    rcases hinv.unanswered i k' t hi with ha | hd | hh
    · exact .inl ((hans i k' t hi).2 ha)
    · exact .inr (.inl hd)
    · exact .inr (.inr (Hold.update_keeps (by simp [hhold]) hh))
  · intro i j k' k'' t hij hi hj
    rw [hans i k' t hi]
    exact hinv.resent i j k' k'' t hij hi hj
  · intro m hm
    exact Hold.update_keeps (by simp [hhold]) (hinv.dropped_none m hm)

/-- The leader of a wave that began with no other wave running sends the stored refresh
token, and keeps the invariant: every earlier call that carried it never had its reply, and
came from a task that was dropped. -/
theorem renew {t : RefreshToken} (hinv : RenewalLog e s₀ l s H D) (hk : ¬ D k)
    (hnone : H k = .none) (hno : ∀ m, m ≠ k → ∀ i, H m ≠ .renewal i)
    (ht : s.refreshToken = .ok (some t)) :
    RenewalLog e s₀ (l.send k (e.refreshRequest t)) s
      (Function.update H k (.renewal l.sent.length)) D := by
  have hissued : (l.send k (e.refreshRequest t)).issued e.refresh = l.issued e.refresh :=
    Ledger.issued_send hinv.replies_lt
  -- an earlier call with the stored token never had its reply, and its task was dropped
  have hearlier : ∀ i k', l.sent[i]? = some (k', e.refreshRequest t) → ¬ l.Answered i ∧ D k' := by
    intro i k' hi
    have hna := hinv.store_fresh t ht i k' hi
    refine ⟨hna, ?_⟩
    rcases hinv.unanswered i k' t hi with ha | hd | hh
    · exact absurd ha hna
    · exact hd
    · by_cases hk' : k' = k
      · rw [hk', hnone] at hh
        cases hh
      · exact absurd hh (hno k' hk' i)
  refine ⟨hinv.written, ?_, ?_, ?_, ?_, ?_, ?_, ?_, ?_, ?_⟩
  · intro ir hir
    have := hinv.replies_lt ir hir
    simp only [Ledger.send_sent, List.length_append, List.length_singleton]
    omega
  · intro i k' t' hi
    rw [hissued]
    rcases Ledger.getElem?_send hi with hi | ⟨-, hx⟩
    · exact hinv.sent_known i k' t' hi
    · have ht' : t' = t := Endpoints.refreshRequest_injective (Prod.mk.inj hx).2
      rw [ht']
      exact hinv.store_known t ht
  · intro t' ht'
    rw [hissued]
    exact hinv.store_known t' ht'
  · intro t' ht' i k' hi
    have htt : t' = t := by
      rw [ht] at ht'
      simpa using ht'.symm
    subst htt
    rcases Ledger.getElem?_send hi with hi | ⟨rfl, -⟩
    · exact hinv.store_fresh t' ht i k' hi
    · exact Ledger.not_answered_length hinv.replies_lt
  · intro m i hm
    rw [Function.update_apply] at hm
    split at hm
    · cases hm
    · obtain ⟨q, hi, hq⟩ := hinv.user_flight m i hm
      exact ⟨q, Ledger.getElem?_send_of_some hi, hq⟩
  · intro m i hm
    rw [Function.update_apply] at hm
    split at hm
    · next hmk =>
      cases hm
      exact ⟨t, by simp [hmk]⟩
    · obtain ⟨t', hi⟩ := hinv.renewal_flight m i hm
      exact ⟨t', Ledger.getElem?_send_of_some hi⟩
  · intro i k' t' hi
    rcases Ledger.getElem?_send hi with hi | ⟨rfl, hx⟩
    · rcases hinv.unanswered i k' t' hi with ha | hd | hh
      · exact .inl ha
      · exact .inr (.inl hd)
      · exact .inr (.inr (Hold.update_keeps (by simp [hnone]) hh))
    · rw [(Prod.mk.inj hx).1]
      exact .inr (.inr (Function.update_self _ _ _))
  · intro i j k' k'' t' hij hi hj
    rcases Ledger.getElem?_send hj with hj | ⟨rfl, hx⟩
    · have hlt : i < l.sent.length := Nat.lt_trans hij (List.getElem?_eq_some_iff.1 hj).1
      rw [Ledger.getElem?_send_of_lt hlt] at hi
      exact hinv.resent i j k' k'' t' hij hi hj
    · have ht' : t' = t := Endpoints.refreshRequest_injective (Prod.mk.inj hx).2
      subst ht'
      rw [Ledger.getElem?_send_of_lt hij] at hi
      exact hearlier i k' hi
  · exact hinv.dropped_none_update hk _

/-- The reply to a renewal call settles the store and keeps the invariant, as long as the
backend issues no refresh token twice. -/
theorem renewed {i₀ : Nat} {r : Reply} {s' : Store} (hinv : RenewalLog e s₀ l s H D)
    (hf : s₀.Faithful) (hk : ¬ D k) (hhold : H k = .renewal i₀) (hset : SettledBy r s s')
    (hnodup : (s₀.refreshTokens ++ (l.reply i₀ r).issued e.refresh).Nodup) :
    RenewalLog e s₀ (l.reply i₀ r) s' (Function.update H k .none) D := by
  obtain ⟨t₀, hi₀⟩ := hinv.renewal_flight k i₀ hhold
  have hissued : (l.reply i₀ r).issued e.refresh =
      l.issued e.refresh ++ ((Reply.pair? r).map Pair.refresh).toList :=
    Ledger.issued_reply hi₀ rfl
  obtain ⟨hw, hstore⟩ := hset.refreshToken hf hinv.written
  have hknown : ∀ t, t ∈ s₀.refreshTokens ++ l.issued e.refresh →
      t ∈ s₀.refreshTokens ++ (l.reply i₀ r).issued e.refresh := by
    intro t ht
    rw [hissued, ← List.append_assoc]
    exact List.mem_append_left _ ht
  refine ⟨hw, ?_, ?_, ?_, ?_, ?_, ?_, ?_, ?_, ?_⟩
  · intro ir hir
    simp only [Ledger.reply_replies, List.mem_append, List.mem_singleton] at hir
    rcases hir with hir | rfl
    · exact hinv.replies_lt ir hir
    · exact (List.getElem?_eq_some_iff.1 hi₀).1
  · intro i k' t hi
    exact hknown t (hinv.sent_known i k' t hi)
  · intro t ht
    rcases hstore with hnone | ⟨pair, hpair, hpt⟩
    · rw [hnone] at ht
      cases ht
    · rw [hpt] at ht
      cases ht
      rw [hissued, ← List.append_assoc]
      exact List.mem_append_right _ (by simp [hpair])
  · intro t ht i k' hi
    rcases hstore with hnone | ⟨pair, hpair, hpt⟩
    · rw [hnone] at ht
      cases ht
    · -- the token just issued is new, so no call carried it
      rw [hpt] at ht
      cases ht
      rw [hissued, ← List.append_assoc] at hnodup
      have hfresh : pair.refresh ∉ s₀.refreshTokens ++ l.issued e.refresh := by
        have := (List.nodup_append.1 hnodup).2.2
        exact fun hmem => this _ hmem pair.refresh (by simp [hpair]) rfl
      exact absurd (hinv.sent_known i k' pair.refresh hi) hfresh
  · intro m i hm
    exact hinv.user_flight m i (Hold.eq_of_update_none nofun hm)
  · intro m i hm
    exact hinv.renewal_flight m i (Hold.eq_of_update_none nofun hm)
  · intro i k' t hi
    rcases hinv.unanswered i k' t hi with ha | hd | hh
    · exact .inl (Ledger.answered_reply.2 (.inl ha))
    · exact .inr (.inl hd)
    · by_cases hk' : k' = k
      · -- the task whose call this is has its reply now
        rw [hk', hhold] at hh
        cases hh
        exact .inl (Ledger.answered_reply.2 (.inr rfl))
      · exact .inr (.inr (by rw [Function.update_of_ne hk']; exact hh))
  · intro i j k' k'' t hij hi hj
    obtain ⟨hna, hd⟩ := hinv.resent i j k' k'' t hij hi hj
    refine ⟨fun ha => ?_, hd⟩
    rcases Ledger.answered_reply.1 ha with ha | rfl
    · exact hna ha
    · -- the call answered now came from the task that got the reply, which was not dropped
      have hi' : l.sent[i]? = some (k', e.refreshRequest t) := hi
      rw [hi₀, Option.some.injEq, Prod.mk.injEq] at hi'
      rw [← hi'.1] at hd
      exact hk hd
  · exact hinv.dropped_none_update hk _

/-- A leader with no refresh token to send clears the store, and keeps the invariant. -/
theorem fail (hinv : RenewalLog e s₀ l s H D) (hf : s₀.Faithful) :
    RenewalLog e s₀ l s.clear.1 H D := by
  have hclear := hf.clear_refreshToken hinv.written
  refine ⟨.clear hinv.written, hinv.replies_lt, hinv.sent_known, ?_, ?_, hinv.user_flight,
    hinv.renewal_flight, hinv.unanswered, hinv.resent, hinv.dropped_none⟩
  · intro t ht
    rw [hclear] at ht
    cases ht
  · intro t ht
    rw [hclear] at ht
    cases ht

/-- Dropping a task keeps the invariant: a renewal call it had in flight never gets its
reply. -/
theorem drop (hinv : RenewalLog e s₀ l s H D) :
    RenewalLog e s₀ l s (Function.update H k .none) (fun m => D m ∨ m = k) := by
  refine ⟨hinv.written, hinv.replies_lt, hinv.sent_known, hinv.store_known, hinv.store_fresh,
    ?_, ?_, ?_, ?_, ?_⟩
  · intro m i hm
    exact hinv.user_flight m i (Hold.eq_of_update_none nofun hm)
  · intro m i hm
    exact hinv.renewal_flight m i (Hold.eq_of_update_none nofun hm)
  · intro i k' t hi
    rcases hinv.unanswered i k' t hi with ha | hd | hh
    · exact .inl ha
    · exact .inr (.inl (.inl hd))
    · by_cases hk' : k' = k
      · exact .inr (.inl (.inr hk'))
      · exact .inr (.inr (by rw [Function.update_of_ne hk']; exact hh))
  · intro i j k' k'' t hij hi hj
    obtain ⟨hna, hd⟩ := hinv.resent i j k' k'' t hij hi hj
    exact ⟨hna, .inl hd⟩
  · intro m hm
    rw [Function.update_apply]
    split
    · rfl
    · next hmk =>
      rcases hm with hm | hm
      · exact hinv.dropped_none m hm
      · exact absurd hm hmk

/-- Every event of a step of task `k` keeps the invariant, when the step began with no wave
running only if no other task had a renewal call in flight. -/
theorem event {co : Coordinator} {x x' : Ledger × Store × Hold} (hinv : RenewalLog e s₀ l s H D)
    (hf : s₀.Faithful) (hk : ¬ D k)
    (hno : co.refreshing = false → ∀ m, m ≠ k → ∀ i, H m ≠ .renewal i)
    (hx : x = (l, s, H k)) (hev : Event e k co x x')
    (hnodup : (s₀.refreshTokens ++ x'.1.issued e.refresh).Nodup) :
    RenewalLog e s₀ x'.1 x'.2.1 (Function.update H k x'.2.2) D := by
  cases hev with
  | send q hq =>
    simp only [Prod.mk.injEq] at hx
    obtain ⟨rfl, rfl, hh⟩ := hx
    exact hinv.send hk hh.symm hq
  | reply r =>
    simp only [Prod.mk.injEq] at hx
    obtain ⟨rfl, rfl, hh⟩ := hx
    exact hinv.reply hh.symm
  | renew t hco ht =>
    simp only [Prod.mk.injEq] at hx
    obtain ⟨rfl, rfl, hh⟩ := hx
    exact hinv.renew hk hh.symm (hno hco) ht
  | renewed r hset =>
    simp only [Prod.mk.injEq] at hx
    obtain ⟨rfl, rfl, hh⟩ := hx
    exact hinv.renewed hf hk hh.symm hset hnodup
  | fail hco =>
    simp only [Prod.mk.injEq] at hx
    obtain ⟨rfl, rfl, hh⟩ := hx
    rw [hh, Function.update_eq_self]
    exact hinv.fail hf

end RenewalLog

/-- Every event puts down more on the ledger and takes nothing off. -/
theorem Event.extends {co : Coordinator} {k : Nat} {x x' : Ledger × Store × Hold}
    (h : Event e k co x x') : x.1.Extends x'.1 := by
  cases h with
  | send => exact Ledger.extends_send
  | reply => exact Ledger.extends_reply
  | renew => exact Ledger.extends_send
  | renewed => exact Ledger.extends_reply
  | fail => exact .refl _

theorem Event.extends_of_steps {co : Coordinator} {k : Nat} {x x' : Ledger × Store × Hold}
    (h : ReflTransGen (Event e k co) x x') : x.1.Extends x'.1 := by
  induction h with
  | refl => exact .refl _
  | tail _ hbc ih => exact ih.trans hbc.extends

/-- The events of a step of task `k` keep the invariant, as long as the backend issues no
refresh token twice in all that the ledger comes to hold. -/
theorem RenewalLog.events {co : Coordinator} {l : Ledger} {s : Store} {H : Nat → Hold}
    {D : Nat → Prop} {k : Nat} {L : Ledger} {x' : Ledger × Store × Hold}
    (hinv : RenewalLog e s₀ l s H D) (hf : s₀.Faithful) (hk : ¬ D k)
    (hno : co.refreshing = false → ∀ m, m ≠ k → ∀ i, H m ≠ .renewal i)
    (hev : ReflTransGen (Event e k co) (l, s, H k) x') (hext : x'.1.Extends L)
    (hnodup : (s₀.refreshTokens ++ L.issued e.refresh).Nodup) :
    RenewalLog e s₀ x'.1 x'.2.1 (Function.update H k x'.2.2) D := by
  induction hev with
  | refl =>
    rw [Function.update_eq_self]
    exact hinv
  | tail hab hbc ih =>
    rename_i b c
    have hb := ih (hbc.extends.trans hext)
    -- the task's flight after the events so far is the one in `b`
    have hx : b = (b.1, b.2.1, Function.update H k b.2.2 k) := by
      rw [Function.update_self]
    have hno' : co.refreshing = false →
        ∀ m, m ≠ k → ∀ i, Function.update H k b.2.2 m ≠ .renewal i := by
      intro hco m hm i
      rw [Function.update_of_ne hm]
      exact hno hco m hm i
    have hc := hb.event hf hk hno' hx hbc
      (hnodup.sublist ((Ledger.issued_sublist hext).append_left _))
    rwa [Function.update_idem] at hc

end Invariant

/-! ## Runs of a pool -/

/-- A step that starts no call sending a caller's request to `path`. -/
def Action.Avoids (path : String) : Action → Prop
  | .spawn call => call.Avoids path
  | _ => True

theorem sendStep_ne_dropped (x : Client ν × Poll (Exchange φ) Reply) : (sendStep x).2 ≠ .dropped := by
  rcases x with ⟨c, ex | r⟩ <;> simp [sendStep]

theorem renewStep_ne_dropped (x : Client ν × Poll (Renewal φ) Renewed) : (renewStep x).2 ≠ .dropped := by
  rcases x with ⟨c, r | t⟩ <;> simp [renewStep]

/-- A task is dropped only by the pool, never by its own step. -/
theorem Call.start_ne_dropped (tr : Transport ν φ) (call : Call) (c : Client ν) :
    (call.start tr c).2 ≠ .dropped := by
  cases call with
  | send request renews => exact sendStep_ne_dropped _
  | ensureFresh rejected => exact renewStep_ne_dropped _
  | renewNow =>
    simp only [Call.start]
    split
    next => simp
    next => exact renewStep_ne_dropped _

theorem Work.poll_ne_dropped (tr : Transport ν φ) (w : Work φ) (c : Client ν) :
    (w.poll tr c).2 ≠ .dropped := by
  cases w with
  | exchange ex => exact sendStep_ne_dropped _
  | renewal r => exact renewStep_ne_dropped _

/-- Only a leader has a renewal call in flight. -/
theorem Task.phase_of_hold {t : Task (Nat × φ)} {i : Nat} (h : t.hold = .renewal i) :
    t.phase = .leads := by
  rcases t with (⟨sd, f | r | f⟩ | r) | reply | result | _
  · cases h
  · rcases r with ticket | f
    · cases h
    · rfl
  · cases h
  · rcases r with ticket | f
    · cases h
    · rfl
  all_goals cases h

namespace Pool

/-- The flight of task `i`; a task that does not exist holds none. -/
def hold (p : Pool ν φ) (i : Nat) : Hold := (p.tasks[i]?.map Task.hold).getD .none

/-- Task `i` was dropped. -/
def Dropped (p : Pool ν φ) (i : Nat) : Prop := p.tasks[i]? = some .dropped

/-- A pool over the endpoints `e` none of whose tasks sends a caller's request to the refresh
path. -/
structure Shaped (e : Endpoints) (p : Pool ν φ) : Prop where
  endpoints : p.client.endpoints = e
  avoids : ∀ t ∈ p.tasks, t.Avoids e.refresh

variable {p p' : Pool ν φ} {c : Client (ν × Ledger)} {t t' : Task (Nat × φ)} {e : Endpoints}

theorem hold_of_getElem? {i : Nat} (h : p.tasks[i]? = some t) : p.hold i = t.hold := by
  simp only [hold, h, Option.map_some, Option.getD_some]

theorem hold_of_length_le {i : Nat} (h : p.tasks.length ≤ i) : p.hold i = .none := by
  simp only [hold, List.getElem?_eq_none h, Option.map_none, Option.getD_none]

theorem hold_set {i : Nat} (hi : i < p.tasks.length) :
    Pool.hold ⟨c, p.tasks.set i t⟩ = Function.update p.hold i t.hold :=
  read_set Task.hold .none p.tasks hi t

theorem hold_append : Pool.hold ⟨c, p.tasks ++ [t]⟩ = Function.update p.hold p.tasks.length t.hold :=
  read_append Task.hold .none p.tasks t

/-- Putting a task that is not dropped in place of one that is not changes no task's being
dropped. -/
theorem dropped_set {i : Nat} (hi : p.tasks[i]? = some t) (ht : t ≠ .dropped) (ht' : t' ≠ .dropped) :
    Pool.Dropped ⟨c, p.tasks.set i t'⟩ = p.Dropped := by
  funext m
  apply propext
  by_cases hm : m = i
  · subst hm
    have hlt : m < p.tasks.length := (List.getElem?_eq_some_iff.1 hi).1
    simp only [Dropped, List.getElem?_set_self hlt, hi, Option.some.injEq]
    exact ⟨fun h => absurd h ht', fun h => absurd h ht⟩
  · simp only [Dropped, List.getElem?_set_ne (Ne.symm hm)]

/-- Dropping task `i` makes it dropped, and no other. -/
theorem dropped_set_dropped {i : Nat} (hi : i < p.tasks.length) :
    Pool.Dropped ⟨c, p.tasks.set i .dropped⟩ = fun m => p.Dropped m ∨ m = i := by
  funext m
  apply propext
  by_cases hm : m = i
  · subst hm
    simp [Dropped, hi]
  · simp only [Dropped, List.getElem?_set_ne (Ne.symm hm), hm, or_false]

theorem dropped_append (ht : t ≠ .dropped) : Pool.Dropped ⟨c, p.tasks ++ [t]⟩ = p.Dropped := by
  funext m
  apply propext
  rcases Nat.lt_trichotomy m p.tasks.length with hm | rfl | hm
  · simp only [Dropped, List.getElem?_append_left hm]
  · simp [Dropped, ht]
  · simp [Dropped, List.getElem?_eq_none (Nat.le_of_lt hm), List.getElem?_eq_none (by simp; omega : (p.tasks ++ [t]).length ≤ m)]

theorem not_dropped_of_length_le {i : Nat} (h : p.tasks.length ≤ i) : ¬ p.Dropped i := by
  simp [Dropped, List.getElem?_eq_none h]

/-- With no wave running, no task has a renewal call in flight. -/
theorem hold_ne_renewal (hco : Coherent p.client.coordinator p.phase)
    (hr : p.client.coordinator.refreshing = false) (m i : Nat) : p.hold m ≠ .renewal i := by
  intro hm
  cases ht : p.tasks[m]? with
  | none => simp [hold, ht] at hm
  | some t =>
    rw [hold_of_getElem? ht] at hm
    have hlead : p.phase m = .leads := by
      rw [phase_of_getElem? ht]
      exact Task.phase_of_hold hm
    exact (hco.idle_facts hr).1 m hlead

/-- What one step of a pool does, as the ledger sees it: a task that was not dropped takes a
step that logs and takes its place, or a task is dropped where it waits, or nothing changes. -/
inductive Stepped (p p' : Pool ν φ) : Prop
  | task (k : Nat) (t' : Task (Nat × φ)) : ¬ p.Dropped k →
      Logs k p.client.coordinator p.client (p.hold k) p'.client t' →
      p'.hold = Function.update p.hold k t'.hold → p'.Dropped = p.Dropped →
      (∀ t ∈ p'.tasks, t ∈ p.tasks ∨ t = t') → Stepped p p'
  | drop (k : Nat) : p'.client.endpoints = p.client.endpoints → p'.client.net = p.client.net →
      p'.client.store = p.client.store → p'.hold = Function.update p.hold k .none →
      p'.Dropped = (fun m => p.Dropped m ∨ m = k) → (∀ t ∈ p'.tasks, t ∈ p.tasks ∨ t = .dropped) →
      Stepped p p'
  | stay : p' = p → Stepped p p'

section Steps

variable (tr : Transport ν φ)

theorem spawn_stepped (call : Call) (hs : p.Shaped e) (hc : call.Avoids e.refresh) :
    Stepped p (p.spawn tr call) := by
  have hlen : p.hold p.tasks.length = .none := hold_of_length_le (Nat.le_refl _)
  refine .task p.tasks.length (call.start (tr.logged p.tasks.length) p.client).2
    (not_dropped_of_length_le (Nat.le_refl _)) ?_ hold_append
    (dropped_append (Call.start_ne_dropped _ call p.client)) ?_
  · rw [hlen]
    exact Call.start_logs tr _ call p.client (by rw [hs.endpoints]; exact hc)
  · intro t ht
    rcases List.mem_append.1 ht with h | h
    · exact .inl h
    · exact .inr (List.mem_singleton.1 h)

theorem poll_stepped (i : Nat) (hs : p.Shaped e) : Stepped p (p.poll tr i) := by
  unfold poll
  split
  next w hw =>
    have hi : i < p.tasks.length := (List.getElem?_eq_some_iff.1 hw).1
    have hnd : ¬ p.Dropped i := by simp [Dropped, hw]
    refine .task i (w.poll (tr.logged i) p.client).2 hnd ?_ (hold_set hi)
      (dropped_set hw (by simp) (Work.poll_ne_dropped _ w p.client)) ?_
    · rw [hold_of_getElem? hw]
      exact Work.poll_logs tr i w p.client (by rw [hs.endpoints]; exact hs.avoids _ (List.mem_of_getElem? hw))
    · intro t ht
      exact (List.mem_or_eq_of_mem_set ht).imp_right id
  next => exact .stay rfl

theorem drop_stepped (i : Nat) : Stepped p (p.drop i) := by
  unfold drop
  split
  next w hw =>
    have hi : i < p.tasks.length := (List.getElem?_eq_some_iff.1 hw).1
    obtain ⟨hend, hnet, hstore⟩ := Work.drop_same w p.client
    exact .drop i hend hnet hstore (hold_set hi) (dropped_set_dropped hi)
      (fun t ht => List.mem_or_eq_of_mem_set ht)
  next => exact .stay rfl

theorem step_stepped (a : Action) (hs : p.Shaped e) (ha : a.Avoids e.refresh) :
    Stepped p (p.step tr a) := by
  cases a with
  | spawn call => exact spawn_stepped tr call hs ha
  | poll i => exact poll_stepped tr i hs
  | drop i => exact drop_stepped i

end Steps

/-- A step keeps the endpoints and the tasks off the refresh path, and only adds to the
ledger. -/
theorem Stepped.shaped (h : Stepped p p') (hs : p.Shaped e) :
    p'.Shaped e ∧ p.client.net.2.Extends p'.client.net.2 := by
  cases h with
  | task k t' _ hl _ _ hmem =>
    refine ⟨⟨hl.endpoints.trans hs.endpoints, fun t ht => ?_⟩, Event.extends_of_steps hl.events⟩
    rcases hmem t ht with h | rfl
    · exact hs.avoids t h
    · rw [← hs.endpoints]
      exact hl.avoids
  | drop k hend hnet _ _ _ hmem =>
    refine ⟨⟨hend.trans hs.endpoints, fun t ht => ?_⟩, by rw [hnet]; exact .refl _⟩
    rcases hmem t ht with h | rfl
    · exact hs.avoids t h
    · trivial
  | stay h =>
    subst h
    exact ⟨hs, .refl _⟩

end Pool

section Runs

variable {tr : Transport ν φ} {e : Endpoints} {s₀ : Store} {p p' : Pool ν φ} {L : Ledger}

/-- A step of task `k` that logs keeps the invariant. -/
theorem RenewalLog.logs {co : Coordinator} {c c' : Client (ν × Ledger)} {t' : Task (Nat × φ)}
    {H : Nat → Hold} {D : Nat → Prop} {k : Nat} (hinv : RenewalLog e s₀ c.net.2 c.store H D)
    (hf : s₀.Faithful) (hk : ¬ D k) (hend : c.endpoints = e)
    (hno : co.refreshing = false → ∀ m, m ≠ k → ∀ i, H m ≠ .renewal i)
    (hl : Logs k co c (H k) c' t') (hext : c'.net.2.Extends L)
    (hnodup : (s₀.refreshTokens ++ L.issued e.refresh).Nodup) :
    RenewalLog e s₀ c'.net.2 c'.store (Function.update H k t'.hold) D := by
  have hev := hl.events
  rw [hend] at hev
  exact hinv.events hf hk hno hev hext hnodup

/-- A step of a reachable pool keeps the invariant, as long as the backend issues no refresh
token twice in all that the ledger comes to hold. -/
theorem Pool.Stepped.log (h : p.Stepped p') (hs : p.Shaped e)
    (hco : Coherent p.client.coordinator p.phase) (hf : s₀.Faithful)
    (hinv : RenewalLog e s₀ p.client.net.2 p.client.store p.hold p.Dropped)
    (hext : p'.client.net.2.Extends L) (hnodup : (s₀.refreshTokens ++ L.issued e.refresh).Nodup) :
    RenewalLog e s₀ p'.client.net.2 p'.client.store p'.hold p'.Dropped := by
  cases h with
  | task k t' hk hl hhold hdrop _ =>
    rw [hhold, hdrop]
    exact hinv.logs hf hk hs.endpoints (fun hr m _ i => Pool.hold_ne_renewal hco hr m i) hl hext
      hnodup
  | drop k _ hnet hstore hhold hdrop _ =>
    rw [hnet, hstore, hhold, hdrop]
    exact hinv.drop
  | stay h =>
    subst h
    exact hinv

/-- Along a run whose steps send no caller's request to the refresh path, the pool keeps its
shape and the ledger only grows. -/
theorem Pool.Shaped.run (hs : p.Shaped e) (tr : Transport ν φ) {acts : List Action}
    (hacts : ∀ a ∈ acts, a.Avoids e.refresh) :
    (p.run tr acts).Shaped e ∧ p.client.net.2.Extends (p.run tr acts).client.net.2 := by
  induction acts generalizing p with
  | nil => exact ⟨hs, .refl _⟩
  | cons a acts ih =>
    obtain ⟨hs', hext⟩ := (Pool.step_stepped tr a hs (hacts a List.mem_cons_self)).shaped hs
    obtain ⟨hs'', hext'⟩ := ih hs' (fun b hb => hacts b (List.mem_cons_of_mem a hb))
    exact ⟨hs'', hext.trans hext'⟩

/-- The invariant holds after every run from a reachable pool where it holds, when the backend
issues no refresh token twice in the whole run. -/
theorem RenewalLog.run (hp : p.Reachable tr) (hs : p.Shaped e) {acts : List Action}
    (hacts : ∀ a ∈ acts, a.Avoids e.refresh) (hf : s₀.Faithful)
    (hinv : RenewalLog e s₀ p.client.net.2 p.client.store p.hold p.Dropped)
    (hnodup : (s₀.refreshTokens ++ (p.run tr acts).client.net.2.issued e.refresh).Nodup) :
    RenewalLog e s₀ (p.run tr acts).client.net.2 (p.run tr acts).client.store (p.run tr acts).hold
      (p.run tr acts).Dropped := by
  induction acts generalizing p with
  | nil => exact hinv
  | cons a acts ih =>
    have hacts' : ∀ b ∈ acts, b.Avoids e.refresh := fun b hb => hacts b (List.mem_cons_of_mem a hb)
    have hstep := Pool.step_stepped tr a hs (hacts a List.mem_cons_self)
    have hs' := (hstep.shaped hs).1
    -- the ledger after this step is a prefix of the one the whole run ends with
    have hext := (hs'.run tr hacts').2
    exact ih (.step a hp) hs' hacts' (hstep.log hs hp.coherent hf hinv hext hnodup) hnodup

theorem Pool.init_shaped (s₀ : Store) (e : Endpoints) (n₀ : ν) :
    (Pool.init s₀ e n₀ : Pool ν φ).Shaped e :=
  ⟨rfl, by simp [Pool.init]⟩

/-- A new client holds the invariant of its first store. -/
theorem RenewalLog.init_pool (s₀ : Store) (e : Endpoints) (n₀ : ν) :
    RenewalLog e s₀ (Pool.init s₀ e n₀ : Pool ν φ).client.net.2 (Pool.init s₀ e n₀ : Pool ν φ).client.store
      (Pool.init s₀ e n₀ : Pool ν φ).hold (Pool.init s₀ e n₀ : Pool ν φ).Dropped := by
  have hhold : (Pool.init s₀ e n₀ : Pool ν φ).hold = fun _ => .none := by
    funext m
    simp [Pool.hold, Pool.init]
  have hdrop : (Pool.init s₀ e n₀ : Pool ν φ).Dropped = fun _ => False := by
    funext m
    simp [Pool.Dropped, Pool.init]
  rw [hhold, hdrop]
  exact RenewalLog.init

end Runs

/-! ## A refresh token goes out twice only after a drop -/

/-- **Refresh tokens are resent only after a drop.** In every run of a new client whose store
keeps every write, whose callers send nothing to the refresh path, and whose backend never
issues one refresh token twice: of two renewal calls that carry the same refresh token, the
earlier one never had its reply, and the task that sent it was dropped. -/
theorem Pool.refresh_token_resent_only_after_drop {tr : Transport ν φ} {s₀ : Store}
    {e : Endpoints} {n₀ : ν} {acts : List Action} {p : Pool ν φ}
    (hrun : p = (Pool.init s₀ e n₀).run tr acts) (hs₀ : s₀.Faithful)
    (hacts : ∀ a ∈ acts, a.Avoids e.refresh)
    (hissued : (s₀.refreshTokens ++ p.client.net.2.issued e.refresh).Nodup)
    {i j k k' : Nat} {t : RefreshToken} (hij : i < j)
    (hi : p.client.net.2.sent[i]? = some (k, e.refreshRequest t))
    (hj : p.client.net.2.sent[j]? = some (k', e.refreshRequest t)) :
    (∀ r, (i, r) ∉ p.client.net.2.replies) ∧ p.tasks[k]? = some .dropped := by
  subst hrun
  have hinv := RenewalLog.run (.init s₀ e n₀) (Pool.init_shaped s₀ e n₀) hacts hs₀
    (RenewalLog.init_pool s₀ e n₀) hissued
  obtain ⟨hna, hd⟩ := hinv.resent i j k k' t hij hi hj
  exact ⟨fun r hr => hna ⟨r, hr⟩, hd⟩

/-- A caller whose token `a` was refused and who is dropped while its renewal call is in
flight, then a second such caller, over a transport that never answers. -/
def Pool.abandonedWave : Pool Unit Unit :=
  (Pool.init (.memory (some ⟨⟨"a"⟩, ⟨"b"⟩⟩)) {} ()).run Transport.silent
    [.spawn (.ensureFresh (some ⟨"a"⟩)), .drop 0, .spawn (.ensureFresh (some ⟨"a"⟩))]

theorem Pool.abandonedWave_sent :
    Pool.abandonedWave.client.net.2.sent =
      [(0, ({} : Endpoints).refreshRequest ⟨"b"⟩), (1, ({} : Endpoints).refreshRequest ⟨"b"⟩)] :=
  rfl

theorem Pool.abandonedWave_issued_nodup :
    ((Store.memory (some ⟨⟨"a"⟩, ⟨"b"⟩⟩)).refreshTokens ++
      Pool.abandonedWave.client.net.2.issued ({} : Endpoints).refresh).Nodup := by
  have h : (Store.memory (some ⟨⟨"a"⟩, ⟨"b"⟩⟩)).refreshTokens ++
      Pool.abandonedWave.client.net.2.issued ({} : Endpoints).refresh = [⟨"b"⟩] := rfl
  rw [h]
  exact List.nodup_cons.2 ⟨List.not_mem_nil, List.nodup_nil⟩

theorem Pool.abandonedWave_resent_after_drop :
    (∀ r, (0, r) ∉ Pool.abandonedWave.client.net.2.replies) ∧
      Pool.abandonedWave.tasks[0]? = some .dropped :=
  Pool.refresh_token_resent_only_after_drop rfl (Store.faithful_memory _)
    (by simp [Action.Avoids, Call.Avoids]) Pool.abandonedWave_issued_nodup (by decide : 0 < 1)
    (show Pool.abandonedWave.client.net.2.sent[0]? = some (0, ({} : Endpoints).refreshRequest ⟨"b"⟩) by
      rw [Pool.abandonedWave_sent]; rfl)
    (show Pool.abandonedWave.client.net.2.sent[1]? = some (1, ({} : Endpoints).refreshRequest ⟨"b"⟩) by
      rw [Pool.abandonedWave_sent]; rfl)

/-- A wave abandoned with its renewal call in flight leaves the refresh token in the store, and
the next wave sends it again, though the store keeps every write and the backend issued no
refresh token twice. -/
theorem Pool.abandoned_wave_resends_refresh_token :
    (Store.memory (some ⟨⟨"a"⟩, ⟨"b"⟩⟩)).Faithful ∧
      ((Store.memory (some ⟨⟨"a"⟩, ⟨"b"⟩⟩)).refreshTokens ++
        Pool.abandonedWave.client.net.2.issued ({} : Endpoints).refresh).Nodup ∧
      Pool.abandonedWave.client.net.2.sent =
        [(0, ({} : Endpoints).refreshRequest ⟨"b"⟩), (1, ({} : Endpoints).refreshRequest ⟨"b"⟩)] :=
  ⟨Store.faithful_memory _, Pool.abandonedWave_issued_nodup, Pool.abandonedWave_sent⟩

end Client

end BearerSession
