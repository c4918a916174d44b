import BearerSession.Clock.Rfc3339
import BearerSession.Json.Print
import BearerSession.Token

/-!
# The credential document

A credential file holds one JSON object: the access token, the refresh token and the instant
the pair was written, under `access_token`, `refresh_token` and `saved_at`.

`Saved.document` writes it indented by two blanks, the members in that order, without a final
line break. `Saved.reader` reads it as the record `StoredCredentials`: from an object (other
members are skipped, none of the three may be given twice) or from a list of three items. The
instant is RFC 3339 text (`Clock.Rfc3339.read`); a text that does not read is refused with
the reason, anything but a string with the expectation "an RFC 3339 formatted date and time
string".
-/

namespace BearerSession

/-- A credential pair with the instant it was written. -/
structure Saved where
  pair : Pair
  savedAt : Clock.Instant

/-- A field of the credential document as read. -/
inductive SavedField where
  | token (text : String)
  | instant (at_ : Clock.Instant)

namespace Saved

/-- The JSON object of saved credentials. -/
def toJson (s : Saved) : Json.Value :=
  .object [("access_token", .string s.pair.access.value),
    ("refresh_token", .string s.pair.refresh.value), ("saved_at", .string s.savedAt.text)]

/-- The text of the credential document. -/
def document (s : Saved) : String := s.toJson.pretty

/-- The diagnostic form of saved credentials: the tokens hidden, the instant as its RFC 3339
text, which is also how an instant in UTC shows itself. -/
def debug (s : Saved) : String :=
  "StoredCredentials \x7b access_token: " ++ s.pair.access.debug ++ ", refresh_token: " ++
    s.pair.refresh.debug ++ ", saved_at: " ++ s.savedAt.text ++ " \x7d"

/-- Reads an instant written as RFC 3339 text. -/
def instantField : Json.Reader Clock.Instant := Json.Reader.fixPosition do
  let some b ← Json.Reader.whitespace | Json.Reader.failPeek .eofWhileParsingValue
  if b == Json.Reader.byte '"' then
    Json.Reader.eat
    let text ← Json.Reader.string
    match Clock.Rfc3339.read text with
    | .ok t => return t
    | .error e => Json.Reader.failData (.custom e.message)
  else Json.Reader.invalidType "an RFC 3339 formatted date and time string"

/-- Reads the credential document. -/
def reader : Json.Reader Saved := do
  let fields ← Json.Reader.record "StoredCredentials"
    ["access_token", "refresh_token", "saved_at"]
    (fun i => if i < 2 then SavedField.token <$> Json.Reader.stringField
      else SavedField.instant <$> instantField)
    Json.Reader.maxDepth
  match fields with
  | [.token access, .token refresh, .instant at_] => return ⟨Pair.of access refresh, at_⟩
  | _ => Json.Reader.failData (.custom "stored credentials")

/-- Reads the credential document from its octets. -/
def parse (bytes : ByteArray) : Except Json.DecodeError Saved :=
  Json.Reader.runDocument reader bytes

end Saved

end BearerSession
