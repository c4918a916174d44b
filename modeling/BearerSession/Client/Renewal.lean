import BearerSession.Client.Basic

/-!
# Renewal

A caller whose token was refused obtains a fresh one (`Client.ensureFresh`). Its role in the
wave (`Client.join`) decides how:

* a settled caller takes the stored token at once;
* a follower waits until the wave's outcome reaches its ticket (`Renewal.following`);
* a leader renews (`Client.lead`). With no refresh token stored it fails at once with
  `noRefreshToken`, and sends nothing. Otherwise it sends one call, `POST` to the refresh
  path with body `{"refresh_token": r}`, no headers and as a first attempt, and waits for the
  reply (`Renewal.leading`).

The reply decides the wave's outcome (`Client.conclude`). A transport failure gives a
refusal with no status and the failure's text. A status outside 2xx gives a refusal with the
status and the reason phrase, or "renewal rejected" without one. A body that is not a token
pair gives a refusal with the status and the reading error. A pair that cannot be stored
gives a refusal with no status. Otherwise the pair is stored and its access token is the
outcome. The leader then settles the wave, so every follower gets the leader's own outcome.

A leader that goes away before its reply arrives abandons the wave (`Renewal.drop`).
-/

namespace BearerSession.Client

variable {ν φ : Type}

/-- Where a caller stands in a wave of renewal that has not ended for it. -/
inductive Renewal (φ : Type) where
  /-- Waits for the outcome of the running wave at a ticket. -/
  | following (ticket : Nat)
  /-- Leads the wave; its renewal call is in flight. -/
  | leading (flight : φ)

/-- What a renewal gives once it has ended for a caller. -/
abbrev Renewed := Except Failure AccessToken

/-- The outcome of a wave, read off the reply to its renewal call; a renewed pair is stored. -/
def conclude (reply : Reply) (c : Client ν) : Client ν × RenewalOutcome :=
  match reply with
  | .error e => (c, .error (.refused (.noResponse e.message)))
  | .ok r =>
    if !r.isSuccess then
      (c, .error (.refused ⟨some r.status, r.reason.getD "renewal rejected"⟩))
    else
      match r.decode (Pair.reader "TokenPairResponse") with
      | .error e => (c, .error (.refused ⟨some r.status, e.message⟩))
      | .ok pair =>
        let (store, saved) := c.store.set pair
        match saved with
        | .ok () => ({ c with store }, .ok pair.access)
        | .error e =>
          ({ c with store },
            .error (.refused (.noResponse
              ("could not persist renewed credentials: " ++ e.message))))

/-- Settles the wave with `outcome`, which is also the leader's. -/
def finishWave (outcome : RenewalOutcome) (c : Client ν) :
    Client ν × Poll (Renewal φ) Renewed :=
  (c.settle outcome, .ready (outcome.mapError RenewalFailure.toFailure))

/-- The leader's renewal: reads the refresh token and sends the renewal call. -/
def lead (tr : Transport ν φ) (c : Client ν) : Client ν × Poll (Renewal φ) Renewed :=
  match c.store.refreshToken with
  | .ok none => finishWave (.error .noRefreshToken) c
  | .error e =>
    finishWave (.error (.refused (.noResponse ("could not read stored credentials: " ++
      e.message)))) c
  | .ok (some token) =>
    let (net, sent) := tr.send (c.endpoints.refreshRequest token) c.net
    let c := { c with net }
    match sent with
    | .pending f => (c, .pending (.leading f))
    | .ready reply =>
      let (c, outcome) := conclude reply c
      finishWave outcome c

/-- Obtains a fresh access token for a caller whose token `rejected` was refused. -/
def ensureFresh (tr : Transport ν φ) (rejected : Option AccessToken) (c : Client ν) :
    Client ν × Poll (Renewal φ) Renewed :=
  match c.join rejected with
  | (c, .error e) => (c, .ready (.error e))
  | (c, .ok .leader) => lead tr c
  | (c, .ok (.follower ticket)) => (c, .pending (.following ticket))
  | (c, .ok (.settled token)) => (c, .ready (.ok token))

namespace Renewal

/-- Polls a renewal. -/
def poll (tr : Transport ν φ) (r : Renewal φ) (c : Client ν) :
    Client ν × Poll (Renewal φ) Renewed :=
  match r with
  | .following ticket =>
    match c.coordinator.outcome? ticket with
    | some outcome => (c, .ready (outcome.mapError RenewalFailure.toFailure))
    | none => (c, .pending r)
  | .leading f =>
    let (net, p) := tr.poll f c.net
    let c := { c with net }
    match p with
    | .pending f' => (c, .pending (.leading f'))
    | .ready reply =>
      let (c, outcome) := conclude reply c
      finishWave outcome c

/-- Leaves a renewal: a leader abandons its wave, a follower leaves its ticket unread. -/
def drop (r : Renewal φ) (c : Client ν) : Client ν :=
  match r with
  | .following _ => c
  | .leading _ => c.abandon

end Renewal

end BearerSession.Client
