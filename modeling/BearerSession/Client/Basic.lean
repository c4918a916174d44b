import BearerSession.Client.Transport
import BearerSession.Store.Basic
import BearerSession.Text.Literal

/-!
# The client and its coordinator

A `Client` holds a credential store, the paths of the backend's endpoints, the network state of
its transport, and a `Coordinator` that makes renewal single-flight: of all the callers that
find their token refused while no renewal runs, one leads a wave of renewal and the others
follow it.

`Client.join` decides a caller's role in a wave. While a wave runs, the caller follows it and
gets a ticket. Otherwise, if the store holds an access token other than the refused one, a
wave has already renewed it and the caller takes it (`Role.settled`); if not, the caller
leads a new wave. Reading the store may fail, and then nothing changes.

A wave ends once (`Client.settle`): it stops running, a failed wave clears the store, and its
outcome goes to every follower's ticket. A wave whose leader goes away (`Client.abandon`) ends
the same way with the failure "renewal abandoned", and leaves the store as it is.
-/

namespace BearerSession

/-- The paths of the backend's endpoints. -/
structure Endpoints where
  login : String := "/api/auth/login/"
  refresh : String := "/api/auth/refresh/"
  profile : String := "/api/users/me/"
  deriving DecidableEq, Repr

namespace Endpoints

/-- The diagnostic form of the endpoints. -/
def debug (e : Endpoints) : String :=
  "Endpoints \x7b login: " ++ Text.Literal.quote e.login ++ ", refresh: " ++
    Text.Literal.quote e.refresh ++ ", profile: " ++ Text.Literal.quote e.profile ++ " \x7d"

/-- The JSON object of the endpoints. -/
def toJson (e : Endpoints) : Json.Value :=
  .object [("login", .string e.login), ("profile", .string e.profile),
    ("refresh", .string e.refresh)]

/-- The renewal call: `POST` to the refresh path with the refresh token as the body. -/
def refreshRequest (e : Endpoints) (token : RefreshToken) : Http.Request :=
  (Http.Request.new .post e.refresh).withBody (.object [("refresh_token", .string token.value)])

/-- The login call: `POST` to the login path with the email and password as the body. -/
def loginRequest (e : Endpoints) (c : Credentials) : Http.Request :=
  (Http.Request.new .post e.login).withBody
    (.object [("email", .string c.email), ("password", .string c.password)])

end Endpoints

/-- The outcome of a wave of renewal: the new access token, or why there is none. -/
abbrev RenewalOutcome := Except RenewalFailure AccessToken

/-- The state of single-flight renewal. -/
structure Coordinator where
  /-- Whether a wave runs. -/
  refreshing : Bool := false
  /-- The tickets of the followers of the running wave. -/
  waiters : List Nat := []
  /-- The number of tickets given so far; the next ticket. -/
  issued : Nat := 0
  /-- The outcome each ticket has been sent. -/
  delivered : List (Nat × RenewalOutcome) := []

namespace Coordinator

/-- Gives a new ticket to a follower. -/
def enqueue (c : Coordinator) : Coordinator × Nat :=
  ({ c with waiters := c.waiters ++ [c.issued], issued := c.issued + 1 }, c.issued)

/-- Ends the running wave, sending `outcome` to every follower. -/
def release (c : Coordinator) (outcome : RenewalOutcome) : Coordinator :=
  { c with refreshing := false, waiters := [],
           delivered := c.delivered ++ c.waiters.map (·, outcome) }

/-- The outcome sent to a ticket, if any. -/
def outcome? (c : Coordinator) (ticket : Nat) : Option RenewalOutcome :=
  (c.delivered.find? (·.1 == ticket)).map (·.2)

/-- The diagnostic form of the coordinator. -/
def debug (c : Coordinator) (refreshPath : String) : String :=
  "RefreshCoordinator \x7b refresh_path: " ++ Text.Literal.quote refreshPath ++
    ", refreshing: " ++ toString c.refreshing ++ ", waiters: " ++ toString c.waiters.length ++
    " \x7d"

end Coordinator

/-- The failure every follower of an abandoned wave gets. -/
def abandoned : RenewalFailure := .refused (.noResponse "renewal abandoned")

/-- A caller's part in a wave of renewal. -/
inductive Role where
  /-- Leads a new wave. -/
  | leader
  /-- Follows the running wave with a ticket. -/
  | follower (ticket : Nat)
  /-- Takes the token a past wave stored. -/
  | settled (token : AccessToken)

/-- A client over the network state `ν`. -/
structure Client (ν : Type) where
  store : Store
  coordinator : Coordinator := {}
  endpoints : Endpoints := {}
  net : ν

namespace Client

variable {ν : Type}

/-- Decides the part of a caller whose token `rejected` was refused. -/
def join (rejected : Option AccessToken) (c : Client ν) : Client ν × Except Failure Role :=
  if c.coordinator.refreshing then
    let (co, ticket) := c.coordinator.enqueue
    ({ c with coordinator := co }, .ok (.follower ticket))
  else
    match c.store.accessToken with
    | .error e => (c, .error e)
    | .ok (some current) =>
      if some current = rejected then
        ({ c with coordinator := { c.coordinator with refreshing := true } }, .ok .leader)
      else (c, .ok (.settled current))
    | .ok none => ({ c with coordinator := { c.coordinator with refreshing := true } }, .ok .leader)

/-- Ends the running wave with `outcome`; a failure clears the store first. -/
def settle (outcome : RenewalOutcome) (c : Client ν) : Client ν :=
  let store := match outcome with
    | .ok _ => c.store
    | .error _ => c.store.clear.1
  { c with store, coordinator := c.coordinator.release outcome }

/-- Ends the running wave because its leader went away. -/
def abandon (c : Client ν) : Client ν :=
  { c with coordinator := c.coordinator.release (.error abandoned) }

/-- The diagnostic form of the client; the store is never shown. -/
def debug (c : Client ν) : String :=
  "AuthClient \x7b endpoints: " ++ c.endpoints.debug ++ ", coordinator: " ++
    c.coordinator.debug c.endpoints.refresh ++ ", store: \"[REDACTED]\" \x7d"

end Client

end BearerSession
