import BearerSession.Session

/-!
# Diagnostic forms never show a secret

A secret is a token or a password. Every diagnostic form is written from the parts of a value
that are not secret, so two values that differ only in their secrets have the same form, and no
form can be used to tell two secrets apart:

* a token shows only its kind, and a pair only the kinds of its two tokens;
* saved credentials show the instant they were saved, login credentials their email;
* a memory store shows whether it holds a pair, not which;
* a client never shows its store, so neither its own form, nor that of its coordinator, nor that
  of a session over it depends on the pair the store holds.

The forms are nested the way the values are: a session shows its client, a client its endpoints
and its coordinator, a store its pair behind the lock. Each lemma below says that one layer
reads no secret, given that the layers inside it read none. The main statement is
`debug_hides_secrets`.
-/

namespace BearerSession

/-! ## Tokens and credentials -/

theorem AccessToken.debug_eq (a b : AccessToken) : a.debug = b.debug := rfl

theorem RefreshToken.debug_eq (a b : RefreshToken) : a.debug = b.debug := rfl

/-- A pair shows the forms of its tokens, so no token of it. -/
theorem Pair.debug_eq (p q : Pair) : p.debug = q.debug := by
  unfold Pair.debug
  rw [AccessToken.debug_eq p.access q.access, RefreshToken.debug_eq p.refresh q.refresh]

/-- Saved credentials show their pair, hidden, and the instant they were saved. -/
theorem Saved.debug_eq_of_savedAt {s s' : Saved} (h : s.savedAt = s'.savedAt) :
    s.debug = s'.debug := by
  unfold Saved.debug
  rw [AccessToken.debug_eq s.pair.access s'.pair.access,
    RefreshToken.debug_eq s.pair.refresh s'.pair.refresh, h]

/-- Login credentials show their email, never the password. -/
theorem Credentials.debug_eq_of_email {c c' : Credentials} (h : c.email = c'.email) :
    c.debug = c'.debug := by
  unfold Credentials.debug
  rw [h]

/-! ## Stores, clients and sessions -/

/-- A memory store shows that it holds a pair, not which. -/
theorem Store.memoryDebug_some (p q : Pair) :
    Store.memoryDebug (some p) = Store.memoryDebug (some q) := by
  unfold Store.memoryDebug
  dsimp only
  rw [Pair.debug_eq p q]

section Client

variable {ν : Type} (c : Client ν) (s : Store)

/-- A client's form is written from its endpoints and its coordinator; the store is a fixed
placeholder. -/
theorem Client.debug_withStore : { c with store := s }.debug = c.debug := rfl

/-- The coordinator's form, as the client writes it, reads the coordinator's state and the
refresh path only. -/
theorem Client.coordinatorDebug_withStore :
    { c with store := s }.coordinator.debug { c with store := s }.endpoints.refresh =
      c.coordinator.debug c.endpoints.refresh := rfl

/-- A session shows its client's form and its state, so not the store either. -/
theorem Session.debug_withStore (x : Session ν) :
    { x with client := { x.client with store := s } }.debug = x.debug := by
  unfold Session.debug
  rw [Client.debug_withStore]

end Client

/-- **Diagnostic forms hide secrets.** Two tokens of one kind, two pairs, two saved credentials
saved at the same instant, two login credentials with the same email, and two memory stores
that each hold a pair have the same diagnostic form. A client, its coordinator and a session
over the client have the same form whatever their store holds. -/
theorem debug_hides_secrets {ν : Type} :
    (∀ a b : AccessToken, a.debug = b.debug) ∧
    (∀ a b : RefreshToken, a.debug = b.debug) ∧
    (∀ p q : Pair, p.debug = q.debug) ∧
    (∀ s s' : Saved, s.savedAt = s'.savedAt → s.debug = s'.debug) ∧
    (∀ c c' : Credentials, c.email = c'.email → c.debug = c'.debug) ∧
    (∀ p q : Pair, Store.memoryDebug (some p) = Store.memoryDebug (some q)) ∧
    (∀ (c : Client ν) (s s' : Store), { c with store := s }.debug = { c with store := s' }.debug) ∧
    (∀ (c : Client ν) (s s' : Store),
      { c with store := s }.coordinator.debug { c with store := s }.endpoints.refresh =
        { c with store := s' }.coordinator.debug { c with store := s' }.endpoints.refresh) ∧
    (∀ (x : Session ν) (s s' : Store),
      { x with client := { x.client with store := s } }.debug =
        { x with client := { x.client with store := s' } }.debug) := by
  refine ⟨AccessToken.debug_eq, RefreshToken.debug_eq, Pair.debug_eq,
    fun _ _ => Saved.debug_eq_of_savedAt, fun _ _ => Credentials.debug_eq_of_email,
    Store.memoryDebug_some, ?_, ?_, ?_⟩
  · intro c s s'
    exact (c.debug_withStore s).trans (c.debug_withStore s').symm
  · intro c s s'
    exact (c.coordinatorDebug_withStore s).trans (c.coordinatorDebug_withStore s').symm
  · intro x s s'
    exact (Session.debug_withStore s x).trans (Session.debug_withStore s' x).symm

end BearerSession
