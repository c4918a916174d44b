import BearerSession.Failure

/-!
# Command errors

A command that fails reports a `Fault`: what it was doing, and the chain of causes below it,
each cause the source of the one before. A library failure contributes its own text and then
its causes (`Failure.causes`).

A fault is printed as `Error: `, the message, and, when there are causes, a blank line,
`Caused by:` and the causes: a single one indented by four spaces, several numbered from 0 with
the number right-aligned in five columns. The later lines of a cause that spans lines are
indented to stand under its first.
-/

namespace BearerSession.Console

/-- An error of a command: its message and the chain of its causes. -/
structure Fault where
  message : String
  causes : List String := []

namespace Fault

/-- A failure of the library, as a fault. -/
def ofFailure (f : Failure) : Fault := ⟨f.message, f.causes⟩

/-- A failure under the message of what was being done. -/
def within (message : String) (f : Failure) : Fault := ⟨message, f.message :: f.causes⟩

/-- A cause as printed: numbered when `number` is given, its later lines indented. -/
def cause (number : Option Nat) (text : String) : String :=
  let head := match number with
    | some n => String.ofList (List.replicate (5 - (toString n).length) ' ') ++ toString n ++ ": "
    | none => "    "
  let indent := match number with
    | some _ => "       "
    | none => "    "
  match text.splitOn "\n" with
  | [] => head
  | first :: later => head ++ first ++ String.join (later.map fun l => "\n" ++ indent ++ l)

/-- The causes as printed. -/
def causesText : List String → String
  | [] => ""
  | [one] => "\n\nCaused by:\n" ++ cause none one
  | many => "\n\nCaused by:" ++ String.join (many.zipIdx.map fun (c, n) => "\n" ++ cause (some n) c)

/-- A fault as printed, with its final newline. -/
def render (f : Fault) : String := "Error: " ++ f.message ++ causesText f.causes ++ "\n"

end Fault

end BearerSession.Console
