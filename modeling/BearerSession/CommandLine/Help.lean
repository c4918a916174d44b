import BearerSession.CommandLine.Basic

/-!
# Usage lines and help pages

The full usage line of a command is its name, `[OPTIONS]` when it has an option that is not
required (help and version aside), its required options, its positional arguments by position
(optional ones in brackets) and `<COMMAND>` when it takes a subcommand. A usage line for the
arguments already `used` (`Level.usage`) keeps the name, the required options and the used
ones, each once, the required and used positional arguments, and `<COMMAND>`; with nothing
used it is the full line.

A help page is the about text, the full usage line, and the sections `Commands:`,
`Arguments:` and `Options:` that are not empty. In a section every entry starts two columns in,
its description follows two columns after the widest entry of the section, and options are
ordered by their place and then by flag. An option's description ends with the environment
variable it reads, with that variable's value unless it is hidden, and with its default.
-/

namespace BearerSession.CommandLine

/-- The values of environment variables. -/
abbrev Lookup := String → Option String

/-- A text padded with spaces to `width` characters. -/
def padTo (width : Nat) (s : String) : String :=
  s ++ String.ofList (List.replicate (width - s.length) ' ')

/-- Entries two columns in, with their descriptions aligned two columns after the widest. -/
def columns (rows : List (String × String)) : List String :=
  let width := rows.foldl (fun w (l, _) => max w l.length) 0
  rows.map fun (l, r) => "  " ++ padTo width l ++ "  " ++ r

/-- The entries of a list without the ones equal to an earlier entry. -/
def firstEach (items : List String) : List String :=
  items.foldl (fun kept x => if kept.contains x then kept else kept ++ [x]) []

namespace Level

/-- Whether the usage line shows `[OPTIONS]`. -/
def showsOptions (l : Level) : Bool :=
  l.options.any fun a => a.action != .help && a.action != .version && !a.required

/-- The `<COMMAND>` part of a usage line. -/
def commandPart (l : Level) : String := if l.commands.isEmpty then "" else " <COMMAND>"

/-- The full usage line. -/
def fullUsage (l : Level) : String :=
  l.name ++ (if l.showsOptions then " [OPTIONS]" else "") ++
    String.join ((l.options.filter (·.required)).map fun a => " " ++ a.textAs true) ++
    String.join (l.positionals.map fun a => " " ++ a.textAs a.required) ++ l.commandPart

/-- The usage line naming the required arguments and those in `used`. -/
def usedUsage (l : Level) (used : List String) : String :=
  let named := fun (a : Arg) => a.required || used.contains a.id
  let optionIds := firstEach ((l.options.filter (·.required)).map (·.id) ++
    used.filter fun id => (l.options.any (·.id == id)))
  let options := optionIds.filterMap l.arg?
  l.name ++ String.join (options.map fun a => " " ++ a.textAs true) ++
    String.join ((l.positionals.filter named).map fun a => " " ++ a.textAs true) ++ l.commandPart

/-- The usage line for the arguments already used. -/
def usage (l : Level) (used : List String) : String :=
  if used.isEmpty then l.fullUsage else l.usedUsage used

/-- The environment and default notes of an option's description. -/
def notes (look : Lookup) (a : Arg) : List String :=
  let env := match a.env with
    | some name =>
      ["[env: " ++ name ++ (if a.hideEnvValue then "" else "=" ++ (look name).getD "") ++ "]"]
    | none => []
  env ++ (a.default.map fun d => "[default: " ++ d ++ "]").toList

/-- The description of an argument in help. -/
def describe (look : Lookup) (a : Arg) : String :=
  " ".intercalate ((if a.help.isEmpty then [] else [a.help]) ++ notes look a)

/-- The entry of an option: its short flag or four spaces, then its long flag and value. -/
def optionEntry (a : Arg) : String :=
  (match a.short with
    | some s => "-" ++ s.toString ++ (if a.long.isSome then ", " else "")
    | none => "    ") ++
  (match a.long with
    | some l => "--" ++ l
    | none => "") ++ a.suffix true

/-- The sections of the help page. -/
def sections (l : Level) (look : Lookup) : List String :=
  let commands := if l.commands.isEmpty then []
    else ["Commands:\n" ++ "\n".intercalate (columns l.commands)]
  let positionals := if l.positionals.isEmpty then []
    else ["Arguments:\n" ++ "\n".intercalate
      (columns (l.positionals.map fun a => (a.textAs a.required, describe look a)))]
  let sorted := l.options.mergeSort Arg.before
  let options := if sorted.isEmpty then []
    else ["Options:\n" ++ "\n".intercalate
      (columns (sorted.map fun a => (optionEntry a, describe look a)))]
  commands ++ positionals ++ options

/-- The help page. -/
def page (l : Level) (look : Lookup) : String :=
  l.about ++ "\n\nUsage: " ++ l.fullUsage ++ "\n\n" ++ "\n\n".intercalate (l.sections look) ++
    "\n"

end Level

end BearerSession.CommandLine
