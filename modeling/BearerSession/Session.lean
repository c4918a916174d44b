import BearerSession.Client.Exchange
import BearerSession.Profile
import BearerSession.Report

/-!
# Sessions

A `Session` drives a client through login, logout and the profile probe, and remembers whether
it holds a working session (`SessionState`): anonymous, or authenticated with the profile of
the last successful probe, if any.

* Login sends `POST` to the login path with `{"email", "password"}`, never with a bearer and
  never renewing (`Session.loginRequest`). The reply must be a response in 2xx whose body is a
  token pair; the pair is stored, and only then is the session authenticated, without a
  profile (`Session.loggedIn`). On any failure the state stays as it was.
* Logout clears the store, whatever that gives, and the session is anonymous.
* The probe reads the profile from the profile path with renewal on. A profile authenticates
  the session with it; any failure makes the session anonymous and gives no profile
  (`Session.probed`).

The diagnostic form of a session shows its client and its state, so never a token.
-/

namespace BearerSession

/-- Whether a session works, with the identity last seen. -/
inductive SessionState where
  | anonymous
  | authenticated (profile : Option Profile)

namespace SessionState

/-- Whether the session is authenticated. -/
def isAuthenticated : SessionState → Bool
  | .anonymous => false
  | .authenticated _ => true

/-- The profile of the last successful probe. -/
def profile? : SessionState → Option Profile
  | .anonymous => none
  | .authenticated p => p

/-- The diagnostic form of a session state. -/
def debug : SessionState → String
  | .anonymous => "Anonymous"
  | .authenticated none => "Authenticated \x7b profile: None \x7d"
  | .authenticated (some p) => "Authenticated \x7b profile: Some(" ++ p.debug ++ ") \x7d"

/-- The report of a session state. -/
def report : SessionState → Json.Value
  | .anonymous => .string "Anonymous"
  | .authenticated p =>
    Report.obj [("Authenticated", Report.obj [("profile", (p.map Profile.report).getD .null)])]

end SessionState

/-- A client with the state of its session. -/
structure Session (ν : Type) where
  client : Client ν
  state : SessionState := .anonymous

namespace Session

variable {ν : Type}

/-- The login call for the given credentials. -/
def loginRequest (s : Session ν) (c : Credentials) : Http.Request :=
  s.client.endpoints.loginRequest c

/-- Completes a login with the reply to its call: stores the pair the backend issued. -/
def loggedIn (reply : Client.Reply) (s : Session ν) : Session ν × Except Failure Unit :=
  match reply.bind (·.decode (Pair.reader "TokenPairResponse")) with
  | .error e => (s, .error e)
  | .ok pair =>
    let (store, saved) := s.client.store.set pair
    let s := { s with client := { s.client with store } }
    match saved with
    | .error e => (s, .error e)
    | .ok () => ({ s with state := .authenticated none }, .ok ())

/-- Logs out: clears the store, ignoring a failure to, and becomes anonymous. -/
def logout (s : Session ν) : Session ν :=
  { client := { s.client with store := s.client.store.clear.1 }, state := .anonymous }

/-- The profile call. -/
def profileRequest (s : Session ν) : Http.Request :=
  Http.Request.new .get s.client.endpoints.profile

/-- The diagnostic form of a session: its client, which never shows the store, and its state
behind its lock. -/
def debug (s : Session ν) : String :=
  "SessionController \x7b client: " ++ s.client.debug ++ ", state: " ++
    lockedDebug s.state.debug ++ " \x7d"

/-- Completes a profile probe with the reply to its call. -/
def probed (reply : Client.Reply) (s : Session ν) : Session ν × Option Profile :=
  match reply.bind (·.decode Profile.reader) with
  | .ok p => ({ s with state := .authenticated (some p) }, some p)
  | .error _ => ({ s with state := .anonymous }, none)

end Session

end BearerSession
