import BearerSession.Failure
import BearerSession.Json.Record
import BearerSession.Url.Basic

/-!
# Base URLs

The base URL of a backend is a URL that can be a base and uses HTTPS, or plain HTTP for a host
that is exactly `localhost`, `127.0.0.1` or `[::1]` once read. Anything else is refused with the
text given and the reason: the URL error, "must be an absolute URL", or "must use HTTPS (HTTP
allowed only for localhost)". Reading a base URL from a string is this one reading, and so is
reading it from a JSON string (`BaseUrl.ofJson`), where a refusal becomes an error with the
refusal's text; its JSON form is its text (`BaseUrl.toJson`).

A request target is resolved against a base by `BaseUrl.endpoint`: a target that starts with
`http://` or `https://` (in lower case) stands as it is; any other is the base's text without
its final slashes, one slash, and the target without its leading slashes. A query or fragment
of the base stays where it is.
-/

namespace BearerSession

/-- A URL accepted as the base of a backend. -/
structure BaseUrl where
  url : Url
  deriving DecidableEq, Repr

namespace BaseUrl

/-- A refusal of the text `value` for `reason`. -/
def refuse (value reason : String) : Failure := .invalidInput (.baseUrl value reason)

/-- Whether the host of a URL, as read, is `localhost`, `127.0.0.1` or `[::1]`. -/
def isLocal (url : Url) : Bool :=
  match url.hostText? with
  | some h => h == "localhost" || h == "127.0.0.1" || h == "[::1]"
  | none => false

/-- Reads and checks a base URL. -/
def parse (s : String) : Except Failure BaseUrl :=
  match Url.parse s with
  | .error e => .error (refuse s e.message)
  | .ok url =>
    if url.cannotBeABase then .error (refuse s "must be an absolute URL")
    else if url.scheme != "https" && !(url.scheme == "http" && isLocal url) then
      .error (refuse s "must use HTTPS (HTTP allowed only for localhost)")
    else if url.hostText?.isNone then .error (refuse s "must have a host")
    else .ok ⟨url⟩

/-- The text of a base URL. -/
def text (b : BaseUrl) : String := b.url.text

/-- The JSON form of a base URL: its text, as a string. -/
def toJson (b : BaseUrl) : Json.Value := .string b.text

/-- Reads a base URL from a JSON value: a string as `parse` reads it, any other value being of
the wrong type. -/
def ofJson : Json.Value → Except Json.DecodeError BaseUrl
  | .string s =>
    match parse s with
    | .ok b => .ok b
    | .error f => .error { code := .custom f.message }
  | v => .error { code := .invalidType v.unexpected "a string" }

/-- The host of a base URL. -/
def host? (b : BaseUrl) : Option String := b.url.hostText?

/-- The text with every final `c` removed. -/
def dropTrailing (c : Char) (s : String) : String :=
  String.ofList (s.toList.reverse.dropWhile (· == c)).reverse

/-- The URL a request target names. -/
def endpoint (b : BaseUrl) (target : String) : String :=
  if target.startsWith "http://" || target.startsWith "https://" then target
  else dropTrailing '/' b.text ++ "/" ++ String.ofList (target.toList.dropWhile (· == '/'))

end BaseUrl

end BearerSession
