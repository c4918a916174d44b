import BearerSession.Json.Print
import BearerSession.Json.Record

/-!
# Profiles

The identity the backend reports for the current credential: a numeric id below `2 ^ 64`, an
email, and every other member of the object kept as data. Only an object is a profile; the id
must be a non-negative integer (not a double, not even `1.0`), the email a string, and neither
may be given twice. Other members given twice keep their last value.

The diagnostic form of a profile shows all three: `Profile { id: 7, email: "a@a.com", extra:
{"is_staff": Bool(false)} }`.
-/

namespace BearerSession

/-- A user profile. -/
structure Profile where
  id : Nat
  email : String
  extra : List (String × Json.Value)

/-- A named field of a profile as read. -/
inductive ProfileField where
  | id (n : Nat)
  | email (s : String)

namespace Profile

/-- Reads a profile object. -/
def reader : Json.Reader Profile := do
  let (named, extra) ← Json.Reader.openRecord "Profile" ["id", "email"]
    (fun i => if i = 0 then ProfileField.id <$> Json.Reader.u64Field
      else ProfileField.email <$> Json.Reader.stringField)
    Json.Reader.maxDepth
  match named with
  | [.id id, .email email] => return { id, email, extra }
  | _ => Json.Reader.failData (.custom "profile")

/-- The diagnostic form of a profile. -/
def debug (p : Profile) : String :=
  "Profile \x7b id: " ++ toString p.id ++ ", email: " ++ Text.Literal.quote p.email ++
    ", extra: \x7b" ++ Json.Value.debugFields p.extra ++ "\x7d \x7d"

end Profile

end BearerSession
