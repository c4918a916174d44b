import BearerSession.Http.Method
import BearerSession.Json.Value
import BearerSession.Token

/-!
# Requests

A request is described by its method, its target (a path or an absolute URL), its headers in
order, an optional JSON body, and whether it is a first attempt or the one replay after a
renewal.

Header names compare without regard to ASCII case. Setting a header removes every header of
an equal name and appends the new one at the end, so no two headers share a name and the
others keep their order. `withBearer` sets `Authorization` to `Bearer <token>`.
-/

namespace BearerSession.Http

/-- Whether a request is a first attempt or the replay after a renewal. -/
inductive Attempt where
  | fresh
  | retried
  deriving DecidableEq, Repr

/-- The name of an attempt. -/
def Attempt.name : Attempt → String
  | .fresh => "Fresh"
  | .retried => "Retried"

/-- Whether two names are equal when ASCII letters are compared without case. -/
def sameName (a b : String) : Bool :=
  a.map Char.toLower == b.map Char.toLower

/-- The value of the first header whose name equals `name` without regard to ASCII case. -/
def headerLookup (headers : List (String × String)) (name : String) : Option String :=
  (headers.find? (fun (n, _) => sameName n name)).map (·.2)

/-- A description of a request. -/
structure Request where
  method : Method
  target : String
  headers : List (String × String) := []
  body : Option Json.Value := none
  attempt : Attempt := .fresh

namespace Request

/-- A first attempt with no headers and no body. -/
def new (method : Method) (target : String) : Request := { method, target }

/-- Sets a header: drops every header of an equal name and appends this one. -/
def header (r : Request) (name value : String) : Request :=
  { r with headers := r.headers.filter (fun (n, _) => !sameName n name) ++ [(name, value)] }

/-- Sets the body. -/
def withBody (r : Request) (body : Json.Value) : Request := { r with body := some body }

/-- The same request as the replay after a renewal. -/
def retried (r : Request) : Request := { r with attempt := .retried }

/-- The same request presenting a token. -/
def withBearer (r : Request) (token : AccessToken) : Request :=
  r.header "Authorization" token.bearer

/-- The value of the first header of a name, ASCII case ignored. -/
def headerValue? (r : Request) (name : String) : Option String :=
  headerLookup r.headers name

end Request

end BearerSession.Http
