/-!
# Command lines: programs, commands and their arguments

A program is read from its command line as a top command with global options and one
subcommand, which takes its own arguments and the global options again. Every command also
knows `-h`/`--help`; the top command alone knows `-V`/`--version`. A generated `help`
subcommand prints the help of the subcommands it names.

An argument (`Arg`) is an option (`--long`, `-s`) or a positional argument. An option either
takes one value (`--name value`, `--name=value`), or is a switch that may be given once, or is
a switch counted each time it is given. A value may be refused by the argument's check, may
come from an environment variable when the argument is absent, and may have a default.

## Texts of arguments

The text of an argument names it in messages and usage lines: `--base-url <BASE_URL>` for an
option with a value, `--verbose...` for a counted switch, `--json-logs` for a switch,
`<METHOD>` for a required positional argument, and `[COMMAND]...` for an optional one that
takes any number of values.

## Levels

The parser reads one command at a time, a `Level`: the name used in usage lines
(`authwave login`), the about text, the arguments in order (the command's own, then the
global ones, then help and version), and the subcommands of the top command.
-/

namespace BearerSession.CommandLine

/-- What is wrong with a value. -/
inductive ValueFault where
  /-- The value is empty where one is required. -/
  | empty
  /-- The value is refused, for the given reason. -/
  | invalid (reason : String)

/-- How the occurrences of an argument are taken. -/
inductive Action where
  /-- Takes one value; a second occurrence is an error. -/
  | value
  /-- A switch; a second occurrence is an error. -/
  | flag
  /-- A switch counted each time it is given. -/
  | count
  /-- Prints the help of the command. -/
  | help
  /-- Prints the version of the program. -/
  | version
  deriving DecidableEq

/-- An argument of a command. -/
structure Arg where
  /-- The name the program reads the argument by. -/
  id : String
  long : Option String := none
  short : Option Char := none
  /-- The position of a positional argument, counted from 1. -/
  position : Option Nat := none
  /-- The name of the value in usage lines and help. -/
  valueName : String := ""
  help : String := ""
  action : Action := .value
  required : Bool := false
  /-- Whether a positional argument takes any number of values. -/
  many : Bool := false
  /-- The environment variable that gives the value when the argument is absent. -/
  env : Option String := none
  /-- Whether help leaves the value of the environment variable out. -/
  hideEnvValue : Bool := false
  default : Option String := none
  /-- The place of an option in help, before the order by name. -/
  order : Nat := 0
  /-- The check of each value. -/
  check : String → Option ValueFault := fun _ => none

namespace Arg

/-- Whether the argument is positional. -/
def isPositional (a : Arg) : Bool := a.position.isSome

/-- Whether the argument takes values. -/
def takesValue (a : Arg) : Bool := a.isPositional || a.action == .value

/-- The value part of the argument's text; `required` decides the brackets of a positional
argument. -/
def suffix (a : Arg) (required : Bool) : String :=
  if a.isPositional then
    let name := if required && !a.many then "<" ++ a.valueName ++ ">"
      else "[" ++ a.valueName ++ "]"
    name ++ (if a.many then "..." else "")
  else if a.action == .value then " <" ++ a.valueName ++ ">"
  else if a.action == .count then "..."
  else ""

/-- The flag of an option: its long form if it has one, else its short form. -/
def flagText (a : Arg) : String :=
  match a.long, a.short with
  | some l, _ => "--" ++ l
  | none, some s => "-" ++ s.toString
  | none, none => ""

/-- The text of the argument, as a required one when `required`. -/
def textAs (a : Arg) (required : Bool) : String := a.flagText ++ a.suffix required

/-- The text of the argument. -/
def text (a : Arg) : String := a.textAs a.required

/-- The key options are ordered by in help: a short flag in lower case, marked by its case,
else the long flag. -/
def sortKey (a : Arg) : String :=
  match a.short, a.long with
  | some s, _ => s.toLower.toString ++ (if s.isLower then "0" else "1")
  | none, some l => l
  | none, none => "\x7b" ++ a.id

/-- Whether `a` comes before `b` among the options in help. -/
def before (a b : Arg) : Bool :=
  a.order < b.order || (a.order == b.order && decide (a.sortKey ≤ b.sortKey))

end Arg

/-- A subcommand with its own arguments. -/
structure Subcommand where
  name : String
  about : String
  args : List Arg

/-- A command as the parser reads it. -/
structure Level where
  /-- The name in usage lines. -/
  name : String
  about : String
  args : List Arg
  /-- The subcommands, by name and about text. -/
  commands : List (String × String) := []

namespace Level

/-- The option of a long flag. -/
def findLong (l : Level) (long : String) : Option Arg :=
  l.args.find? fun a => a.long == some long

/-- The option of a short flag. -/
def findShort (l : Level) (c : Char) : Option Arg :=
  l.args.find? fun a => a.short == some c

/-- The positional argument at a position. -/
def positional (l : Level) (n : Nat) : Option Arg :=
  l.args.find? fun a => a.position == some n

/-- The positional arguments, by position. -/
def positionals (l : Level) : List Arg :=
  (l.args.filter Arg.isPositional).mergeSort fun a b => a.position.getD 0 ≤ b.position.getD 0

/-- The options. -/
def options (l : Level) : List Arg := l.args.filter fun a => !a.isPositional

/-- Whether the command has a subcommand of this name. -/
def hasCommand (l : Level) (name : String) : Bool := l.commands.any (·.1 == name)

/-- The argument of an id. -/
def arg? (l : Level) (id : String) : Option Arg := l.args.find? (·.id == id)

/-- The long flags of the options, in order. -/
def longs (l : Level) : List String := l.args.filterMap Arg.long

end Level

/-- A program: its name, about text, version, global options and subcommands. -/
structure Program where
  name : String
  about : String
  version : String
  globals : List Arg
  commands : List Subcommand

namespace Program

/-- The about text of the `help` subcommand. -/
def helpAbout : String := "Print this message or the help of the given subcommand(s)"

/-- The `-h`/`--help` option. -/
def helpArg : Arg where
  id := "help"
  long := some "help"
  short := some 'h'
  action := .help
  help := "Print help"
  order := 1000

/-- The `-V`/`--version` option. -/
def versionArg : Arg where
  id := "version"
  long := some "version"
  short := some 'V'
  action := .version
  help := "Print version"
  order := 1000

/-- The top command. -/
def top (p : Program) : Level where
  name := p.name
  about := p.about
  args := p.globals ++ [helpArg, versionArg]
  commands := p.commands.map (fun s => (s.name, s.about)) ++ [("help", helpAbout)]

/-- A subcommand as a level. -/
def level (p : Program) (s : Subcommand) : Level where
  name := p.name ++ " " ++ s.name
  about := s.about
  args := s.args ++ p.globals ++ [helpArg]

/-- The names the `help` subcommand takes. -/
def helpNames : Arg where
  id := "subcommand"
  position := some 1
  valueName := "COMMAND"
  many := true
  help := "Print help for the subcommand(s)"

/-- The `help` subcommand as a level. -/
def helpLevel (p : Program) : Level where
  name := p.name ++ " help"
  about := helpAbout
  args := [helpNames]

/-- The level of a subcommand name. -/
def levelOf? (p : Program) (name : String) : Option Level :=
  if name == "help" then some p.helpLevel
  else (p.commands.find? (·.name == name)).map p.level

/-- The line printed for the version. -/
def versionLine (p : Program) : String := p.name ++ " " ++ p.version ++ "\n"

end Program

end BearerSession.CommandLine
