import BearerSession.Failure
import BearerSession.Http.Request
import BearerSession.Json.Print
import BearerSession.Json.Record
import BearerSession.Text.Utf8

/-!
# Responses

A response is its status, an optional reason phrase, its headers in order (repeats allowed)
and its body octets. A status from 200 to 299 is a success; 401 means the credential was
refused.

The body is read as JSON in two ways: `json?` gives the value when the body is non-empty and
parses, and nothing otherwise; `decode` reads it with a given reader and turns a reading error
into the transport failure "could not decode response body". `text` shows the body as UTF-8,
ill-formed parts as U+FFFD.
-/

namespace BearerSession.Http

/-- A response. -/
structure Response where
  status : Nat
  reason : Option String := none
  headers : List (String × String) := []
  body : ByteArray := ByteArray.empty

namespace Response

/-- A response whose body is the compact text of a JSON value, with
`Content-Type: application/json`. -/
def ofJson (status : Nat) (v : Json.Value) : Response :=
  { status, headers := [("Content-Type", "application/json")], body := v.compact.toUTF8 }

/-- Appends a header. -/
def withHeader (r : Response) (name value : String) : Response :=
  { r with headers := r.headers ++ [(name, value)] }

/-- Whether the status is from 200 to 299. -/
def isSuccess (r : Response) : Bool := 200 ≤ r.status && r.status < 300

/-- Whether the status is 401. -/
def isUnauthorized (r : Response) : Bool := r.status == 401

/-- The value of the first header of a name, ASCII case ignored. -/
def headerValue? (r : Response) (name : String) : Option String :=
  headerLookup r.headers name

/-- The body as text, ill-formed UTF-8 read as U+FFFD. -/
def text (r : Response) : String :=
  Text.Utf8.decodeLossy r.body.toList

/-- The body as a JSON value, when it is non-empty and parses. -/
def json? (r : Response) : Option Json.Value :=
  if r.body.size = 0 then none
  else match Json.Value.parse r.body with
    | .ok v => some v
    | .error _ => none

/-- Reads the body with `reader`; a reading error is a transport failure. -/
def decode (r : Response) (reader : Json.Reader α) : Except Failure α :=
  match Json.Reader.runDocument reader r.body with
  | .ok a => .ok a
  | .error e => .error (.transport (.decode e.message))

/-- The body as a JSON value, or the transport failure of reading it. -/
def json (r : Response) : Except Failure Json.Value :=
  r.decode (Json.Reader.value (Json.Reader.nestedBudget r.body) Json.Reader.maxDepth)

/-- A success as it is, anything else as the rejection it is. -/
def intoResult (r : Response) : Except Failure Response :=
  if r.isSuccess then .ok r
  else .error (.requestFailed ⟨r.status, r.reason, r.json?⟩)

end Response

end BearerSession.Http
