import BearerSession.CommandLine.Help

/-!
# Command line errors

A command line that cannot be read is refused with an error: `error: ` and the problem, the
tips that may help (`  tip: ...`, separated from the problem by a blank line), the usage line
when the problem calls for one, and the pointer to `--help`. Each problem has its own wording
(`Problem.message`).
-/

namespace BearerSession.CommandLine

/-- What is wrong with a command line. -/
inductive Problem where
  /-- An argument that the command does not know. -/
  | unknownArgument (arg : String)
  /-- A word where a subcommand should be, that names none. -/
  | unrecognizedSubcommand (name : String)
  /-- A subcommand name after `--`. -/
  | commandAfterEscape (name : String)
  /-- A value that the argument's check refused. -/
  | invalidValue (value arg reason : String)
  /-- An argument that needs a value and got none. -/
  | missingValue (arg : String)
  /-- A value attached to a switch. -/
  | unexpectedValue (value arg : String)
  /-- Required arguments that were not given. -/
  | missingRequired (args : List String)
  /-- A command that needs a subcommand and got none. -/
  | missingSubcommand (command : String) (names : List String)
  /-- An argument given twice that may be given once. -/
  | repeated (arg : String)

/-- The wording of a problem. -/
def Problem.message : Problem → String
  | .unknownArgument arg => "unexpected argument '" ++ arg ++ "' found"
  | .unrecognizedSubcommand name => "unrecognized subcommand '" ++ name ++ "'"
  | .commandAfterEscape name => "unexpected argument '" ++ name ++ "' found"
  | .invalidValue value arg reason =>
    "invalid value '" ++ value ++ "' for '" ++ arg ++ "': " ++ reason
  | .missingValue arg => "a value is required for '" ++ arg ++ "' but none was supplied"
  | .unexpectedValue value arg =>
    "unexpected value '" ++ value ++ "' for '" ++ arg ++ "' found; no more were expected"
  | .missingRequired args =>
    "the following required arguments were not provided:" ++
      String.join (args.map ("\n  " ++ ·))
  | .missingSubcommand command names =>
    "'" ++ command ++ "' requires a subcommand but one was not provided\n  [subcommands: " ++
      ", ".intercalate names ++ "]"
  | .repeated arg => "the argument '" ++ arg ++ "' cannot be used multiple times"

/-- An error: the problem, tips, and the usage line it shows. -/
structure Error where
  problem : Problem
  tips : List String := []
  usage : Option String := none

/-- The tip that names similar words. -/
def similarTip (kind : String) : List String → List String
  | [] => []
  | [one] => ["a similar " ++ kind ++ " exists: '" ++ one ++ "'"]
  | many =>
    ["some similar " ++ kind ++ "s exist: " ++ ", ".intercalate (many.map ("'" ++ · ++ "'"))]

/-- The tip to pass a word that looks like a flag as a value. -/
def escapeTip (arg : String) : String :=
  "to pass '" ++ arg ++ "' as a value, use '-- " ++ arg ++ "'"

/-- The tip to pass a word that looks like a subcommand as a value, after `--`. -/
def commandEscapeTip (command word : String) : String :=
  "to pass '" ++ word ++ "' as a value, use '" ++ command ++ " -- " ++ word ++ "'"

/-- The text of an error, as printed. -/
def Error.render (e : Error) : String :=
  "error: " ++ e.problem.message ++
    (if e.tips.isEmpty then "" else "\n\n" ++ "\n".intercalate (e.tips.map ("  tip: " ++ ·))) ++
    (match e.usage with
      | some u => "\n\nUsage: " ++ u
      | none => "") ++
    "\n\nFor more information, try '--help'.\n"

end BearerSession.CommandLine
