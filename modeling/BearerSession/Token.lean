import BearerSession.Json.Record
import BearerSession.Text.Literal

/-!
# Tokens and credentials

An access token authorises requests as a bearer; a refresh token obtains a new pair. Their
diagnostic forms never show the secret: they read `AccessToken("[REDACTED]")`, and a pair or a
set of login credentials shows only the parts that are not secret.

A credential pair is written and read as the JSON object
`{"access_token": ..., "refresh_token": ...}`; `Pair.reader` reads it under a record name that
its error messages use.
-/

namespace BearerSession

/-- A token that authorises requests. -/
structure AccessToken where
  value : String
  deriving DecidableEq, Repr

/-- A token that obtains a new credential pair. -/
structure RefreshToken where
  value : String
  deriving DecidableEq, Repr

/-- The two tokens a login or renewal issues. -/
structure Pair where
  access : AccessToken
  refresh : RefreshToken
  deriving DecidableEq, Repr

/-- An email and a password for logging in. -/
structure Credentials where
  email : String
  password : String
  deriving DecidableEq, Repr

namespace AccessToken

/-- The `Authorization` value that presents the token. -/
def bearer (t : AccessToken) : String := "Bearer " ++ t.value

/-- The diagnostic form, without the secret. -/
def debug (_ : AccessToken) : String := "AccessToken(\"[REDACTED]\")"

end AccessToken

/-- The diagnostic form, without the secret. -/
def RefreshToken.debug (_ : RefreshToken) : String := "RefreshToken(\"[REDACTED]\")"

namespace Pair

/-- A pair from the two token texts. -/
def of (access refresh : String) : Pair := ⟨⟨access⟩, ⟨refresh⟩⟩

/-- The diagnostic form, without the secrets. -/
def debug (p : Pair) : String :=
  "CredentialPair \x7b access_token: " ++ p.access.debug ++ ", refresh_token: " ++
    p.refresh.debug ++ " \x7d"

/-- The JSON object of a pair. -/
def toJson (p : Pair) : Json.Value :=
  .object [("access_token", .string p.access.value), ("refresh_token", .string p.refresh.value)]

/-- Reads a pair, naming the record `name` in errors, from an object or a two-item list. -/
def reader (name : String) : Json.Reader Pair := do
  let fields ← Json.Reader.record name ["access_token", "refresh_token"]
    (fun _ => Json.Reader.stringField) Json.Reader.maxDepth
  match fields with
  | [access, refresh] => return of access refresh
  | _ => Json.Reader.failData (.custom "credential pair")

/-- Reads a pair from a JSON document, naming the record `name` in errors. -/
def parse (name : String) (bytes : ByteArray) : Except Json.DecodeError Pair :=
  Json.Reader.runDocument (reader name) bytes

end Pair

/-- The diagnostic form of login credentials: the email as a quoted literal, the password
hidden. -/
def Credentials.debug (c : Credentials) : String :=
  "Credentials \x7b email: " ++ Text.Literal.quote c.email ++ ", password: \"[REDACTED]\" \x7d"

end BearerSession
