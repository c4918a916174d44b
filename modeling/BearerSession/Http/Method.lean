import BearerSession.Failure

/-!
# Request methods

The five methods a request may use. A method name is read without regard to ASCII case
(`get`, `Get` and `GET` are one method); other letters are compared as they are, so no
non-ASCII spelling names a method.
-/

namespace BearerSession.Http

/-- A request method. -/
inductive Method where
  | get
  | post
  | put
  | patch
  | delete
  deriving DecidableEq, Repr

namespace Method

/-- The name of a method, in capitals. -/
def name : Method → String
  | .get => "GET"
  | .post => "POST"
  | .put => "PUT"
  | .patch => "PATCH"
  | .delete => "DELETE"

/-- Every method. -/
def all : List Method := [.get, .post, .put, .patch, .delete]

/-- The text with ASCII letters in capitals and every other character kept. -/
def asciiUpper (s : String) : String := s.map Char.toUpper

/-- The method a name denotes, ASCII case ignored. -/
def ofName? (s : String) : Option Method :=
  let upper := asciiUpper s
  all.find? (fun m => m.name == upper)

/-- The method a name denotes, or the input failure that names the text. -/
def parse (s : String) : Except Failure Method :=
  match ofName? s with
  | some m => .ok m
  | none => .error (.invalidInput (.method s))

end Method

end BearerSession.Http
