import BearerSession.Disk.Errno
import BearerSession.Json.Value

/-!
# Failures

Every operation of the library fails with a `Failure`, whose cases say what went wrong:
renewal was needed but no refresh token is stored; the renewal was refused; the backend
answered with a status outside 2xx; no usable response arrived; the credential store could not
be read or written; or an input was malformed.

`Failure.message` is the one text of a failure. `Failure.causes` lists the texts of the
failures it wraps, outermost first, as diagnostics print them under "Caused by". A renewal
failure or a missing refresh token ends the session (`terminated`); a failed request and a
failed renewal with a response carry its status.

A wave of renewal has its own outcome type, `RenewalFailure`, which is shared by every caller
that waited on the wave and converts into a `Failure`.
-/

namespace BearerSession

/-- The details of a refused renewal: the status of the refresh response, if one arrived. -/
structure RenewalRefusal where
  status : Option Nat
  message : String
  deriving DecidableEq, Repr

/-- A renewal refused with `message` and no response. -/
def RenewalRefusal.noResponse (message : String) : RenewalRefusal := ⟨none, message⟩

/-- `HTTP 403: Forbidden` with a status, the message alone without. -/
def RenewalRefusal.text (r : RenewalRefusal) : String :=
  match r.status with
  | some s => "HTTP " ++ toString s ++ ": " ++ r.message
  | none => r.message

/-- A response with a status outside 2xx: its status, reason phrase, and body when that was
JSON. -/
structure Rejection where
  status : Nat
  reason : Option String
  data : Option Json.Value

/-- `HTTP 404 Not Found`; the reason is appended only when present, even if empty. -/
def Rejection.text (r : Rejection) : String :=
  "HTTP " ++ toString r.status ++ (match r.reason with | some s => " " ++ s | none => "")

/-- Whether a rejection is a 401. -/
def Rejection.unauthorized (r : Rejection) : Bool := r.status == 401

/-- Why no usable response arrived. -/
inductive TransportFailure where
  | connection (message : String)
  | timeout
  | decode (message : String)
  | http (message : String)
  deriving DecidableEq, Repr

/-- The text of a transport failure. -/
def TransportFailure.text : TransportFailure → String
  | .connection m => "connection failed: " ++ m
  | .timeout => "request timed out"
  | .decode m => "could not decode response body: " ++ m
  | .http m => "HTTP error: " ++ m

/-- Why the credential store failed; paths are shown as given. -/
inductive StorageFailure where
  | io (path : String) (cause : Disk.IoError)
  | corrupt (path : String) (message : String)
  deriving DecidableEq, Repr

/-- The text of a storage failure. -/
def StorageFailure.text : StorageFailure → String
  | .io path cause => "I/O error on " ++ path ++ ": " ++ cause.message
  | .corrupt path message => "corrupt credential file " ++ path ++ ": " ++ message

/-- The failures a storage failure wraps. -/
def StorageFailure.causes : StorageFailure → List String
  | .io _ cause => [cause.message]
  | .corrupt _ _ => []

/-- A malformed input. -/
inductive InputFailure where
  | baseUrl (value reason : String)
  | header (name reason : String)
  | method (value : String)
  | other (message : String)
  deriving DecidableEq, Repr

/-- The text of an input failure. -/
def InputFailure.text : InputFailure → String
  | .baseUrl value reason => "invalid base URL '" ++ value ++ "': " ++ reason
  | .header name reason => "invalid header '" ++ name ++ "': " ++ reason
  | .method value => "invalid HTTP method '" ++ value ++ "'"
  | .other message => "invalid input: " ++ message

/-- A failure of the library. -/
inductive Failure where
  /-- Renewal was needed but no refresh token is stored. -/
  | noRefreshToken
  /-- The renewal failed; the stored session has been cleared. -/
  | refreshFailed (refusal : RenewalRefusal)
  /-- The backend answered with a status outside 2xx. -/
  | requestFailed (rejection : Rejection)
  /-- No usable response was received. -/
  | transport (cause : TransportFailure)
  /-- The credential store could not be read or written. -/
  | storage (cause : StorageFailure)
  /-- An input was malformed. -/
  | invalidInput (cause : InputFailure)

namespace Failure

/-- The text of a failure. -/
def message : Failure → String
  | .noRefreshToken => "no refresh token available"
  | .refreshFailed r => "token refresh failed: " ++ r.text
  | .requestFailed r => "request failed: " ++ r.text
  | .transport t => "transport error: " ++ t.text
  | .storage s => "storage error: " ++ s.text
  | .invalidInput i => "invalid input: " ++ i.text

/-- The texts of the failures this one wraps, outermost first. -/
def causes : Failure → List String
  | .noRefreshToken => []
  | .refreshFailed _ => []
  | .requestFailed r => [r.text]
  | .transport t => [t.text]
  | .storage s => s.text :: s.causes
  | .invalidInput i => [i.text]

/-- The status a failure carries. -/
def status : Failure → Option Nat
  | .requestFailed r => some r.status
  | .refreshFailed r => r.status
  | _ => none

/-- Whether a failure ended the session. -/
def terminated : Failure → Bool
  | .noRefreshToken => true
  | .refreshFailed _ => true
  | _ => false

end Failure

/-- The outcome of a failed wave of renewal, shared by all who waited on it. -/
inductive RenewalFailure where
  | noRefreshToken
  | refused (refusal : RenewalRefusal)
  deriving DecidableEq, Repr

namespace RenewalFailure

/-- The text of a renewal failure. -/
def message : RenewalFailure → String
  | .noRefreshToken => "no refresh token available"
  | .refused r => "token refresh failed: " ++ r.text

/-- The failure of the library a renewal failure becomes. -/
def toFailure : RenewalFailure → Failure
  | .noRefreshToken => .noRefreshToken
  | .refused r => .refreshFailed r

end RenewalFailure

end BearerSession
