import BearerSession.CommandLine.Error
import BearerSession.Text.Similarity

/-!
# Reading a command line

`read` takes the words of a command line and gives the arguments of the top command and of the
subcommand, or a `Stop`: a help page, the version, a refusal, or the help page as a failure
when nothing at all was given.

Words are read from left to right. At the top a subcommand name starts the subcommand, whose
words are read in turn; `help` prints the help of the subcommands named after it. `--` makes
every later word positional. `--name` and `--name=value` are long options, `-abc` a cluster of
short ones. A word after an option that takes a value is its value, even when it names a
subcommand or follows `--`; any other word is the next positional argument.

A value is checked when the next argument starts or the words end, so errors come in the order
of the words: a value that is missing or refused, an argument given twice, an attached value
on a switch, an unknown flag or word. Help and version stop reading where they stand. When the
words of a command end, its absent arguments take the values of their environment variables,
which are checked too, then their defaults; then a missing subcommand and missing required
arguments are refused. A subcommand is read to its end before the top command is completed.

An unknown long flag gets the tip of the most similar flag of its command, or of a subcommand
named later on the line, or else the tip to escape it with `--` when the command has
positional arguments. An unknown subcommand gets the tip of the similar ones and the tip to
pass it after `--` as a value, or no tip when none is similar.
-/

namespace BearerSession.CommandLine

open Text

/-- Where a value came from. -/
inductive Source where
  | default
  | environment
  | commandLine
  deriving DecidableEq

/-- The precedence of a source: the command line over the environment over defaults. -/
def Source.rank : Source → Nat
  | .default => 0
  | .environment => 1
  | .commandLine => 2

/-- Whether a value was given rather than defaulted. -/
def Source.explicit (s : Source) : Bool := s != .default

/-- An argument that was given, with its values; a counted switch holds one value per
occurrence. -/
structure Given where
  id : String
  values : List String
  source : Source

/-- How reading a command line stops short of running the program. -/
inductive Stop where
  /-- Help was asked for: the page, printed as a success. -/
  | help (page : String)
  /-- The version was asked for. -/
  | version (line : String)
  /-- The command line is refused. -/
  | refused (e : Error)
  /-- Nothing was given: the help page, printed as a failure. -/
  | bare (page : String)

namespace Stop

/-- The text a stop prints. -/
def text : Stop → String
  | .help page => page
  | .version line => line
  | .refused e => e.render
  | .bare page => page

/-- Whether a stop is a failure. -/
def failed : Stop → Bool
  | .refused _ => true
  | .bare _ => true
  | _ => false

end Stop

/-- Values waiting for the check of their argument. -/
structure Pending where
  arg : Arg
  values : List String

/-- The state of reading one command. -/
structure Scan where
  given : List Given := []
  pending : Option Pending := none
  /-- The option whose value is the next word. -/
  awaiting : Option Arg := none
  /-- The position of the next positional argument. -/
  position : Nat := 1
  /-- Whether `--` was read. -/
  escaped : Bool := false

namespace Scan

/-- Whether an argument was given. -/
def has (s : Scan) (id : String) : Bool := s.given.any (·.id == id)

/-- The arguments given explicitly, in the order they were first given. -/
def explicitIds (s : Scan) : List String := (s.given.filter (·.source.explicit)).map (·.id)

/-- Adds an argument. -/
def add (s : Scan) (g : Given) : Scan := { s with given := s.given ++ [g] }

/-- Counts one more occurrence of a counted switch. -/
def bump (s : Scan) (id : String) : Scan :=
  if s.has id then
    let more := fun (g : Given) => if g.id == id then { g with values := g.values ++ ["1"] } else g
    { s with given := s.given.map more }
  else s.add ⟨id, ["1"], .commandLine⟩

end Scan

/-- What reading is done in. -/
abbrev Reading := Except Stop

/-- The command being read, with its program and the environment. -/
structure Reader where
  program : Program
  level : Level
  look : Lookup

/-- A refusal. -/
def refuse (problem : Problem) (tips : List String) (usage : Option String) : Stop :=
  .refused ⟨problem, tips, usage⟩

/-- Checks the values of an argument. -/
def checkValues (a : Arg) : List String → Reading Unit
  | [] => pure ()
  | v :: rest =>
    match a.check v with
    | some .empty => throw (refuse (.missingValue a.text) [] none)
    | some (.invalid reason) => throw (refuse (.invalidValue v a.text reason) [] none)
    | none => checkValues a rest

namespace Reader

/-- Takes an occurrence of an argument with its values, once what was pending is settled. -/
def apply (r : Reader) (a : Arg) (values : List String) (source : Source) (s : Scan) :
    Reading Scan :=
  if source == .commandLine && a.action == .value && values.isEmpty then
    throw (refuse (.missingValue a.text) [] none)
  else
    match a.action with
    | .help => throw (.help (r.level.page r.look))
    | .version => throw (.version r.program.versionLine)
    | .value =>
      if s.has a.id then throw (refuse (.repeated a.text) [] (some r.level.fullUsage))
      else do
        checkValues a values
        pure (s.add ⟨a.id, values, source⟩)
    | .flag =>
      if s.has a.id then throw (refuse (.repeated a.text) [] (some r.level.fullUsage))
      else pure (s.add ⟨a.id, ["true"], source⟩)
    | .count => pure (s.bump a.id)

/-- Settles the pending values. -/
def resolve (r : Reader) (s : Scan) : Reading Scan :=
  match s.pending with
  | none => pure s
  | some p => r.apply p.arg p.values .commandLine { s with pending := none }

/-- Settles the pending values, ignoring a failure to: used on the way to another error. -/
def settle (r : Reader) (s : Scan) : Scan :=
  match r.resolve s with
  | .ok s' => s'
  | .error _ => { s with pending := none }

/-- Takes an occurrence from the command line. -/
def take (r : Reader) (a : Arg) (values : List String) (s : Scan) : Reading Scan := do
  r.apply a values .commandLine (← r.resolve s)

/-- Starts an option whose value is the next word. -/
def await (r : Reader) (a : Arg) (s : Scan) : Reading Scan := do
  let s ← r.resolve s
  pure { s with pending := some ⟨a, []⟩, awaiting := some a }

/-- Whether the command has positional arguments. -/
def hasPositionals (r : Reader) : Bool := !r.level.positionals.isEmpty

/-- The refusal of an unknown long flag `--name`, with the words after it. -/
def unknownLong (r : Reader) (name : String) (rest : List String) (s : Scan) : Stop :=
  let arg := "--" ++ name
  match (similarTo name r.level.longs).getLast? with
  | some best =>
    let s := match r.level.findLong best with
      | some a => if s.has a.id then s else s.add ⟨a.id, [], .commandLine⟩
      | none => s
    refuse (.unknownArgument arg) (similarTip "argument" ["--" ++ best])
      (some (r.level.usage s.explicitIds))
  | none =>
    let named := r.program.commands.filterMap fun sub =>
      match rest.idxOf? sub.name, (similarTo name (r.program.level sub).longs).getLast? with
      | some at_, some flag =>
        if r.level.commands.isEmpty then none else some (at_, sub.name, flag)
      | _, _ => none
    let nearest := named.foldl (fun best x =>
      match best with
      | some b => if x.1 < b.1 then some x else some b
      | none => some x) none
    let tips := match nearest with
      | some (_, sub, flag) => ["'" ++ sub ++ " --" ++ flag ++ "' exists"]
      | none => if !s.escaped && r.hasPositionals then [escapeTip arg] else []
    refuse (.unknownArgument arg) tips (some (r.level.usage s.explicitIds))

/-- The refusal of a value attached to a switch. -/
def attachedToSwitch (r : Reader) (a : Arg) (value : String) (s : Scan) : Stop :=
  let required := fun (id : String) => (r.level.arg? id).any (·.required)
  let used := (s.given.filter fun g => g.source.explicit && !required g.id).map (·.id) ++ [a.id]
  refuse (.unexpectedValue value a.text) [] (some (r.level.usage used))

/-- The refusal of a word that no positional argument takes. -/
def stray (r : Reader) (word : String) (s : Scan) : Stop :=
  if s.escaped && r.level.hasCommand word then
    refuse (.commandAfterEscape word)
      ["subcommand '" ++ word ++ "' exists; to use it, remove the '--' before it"]
      (some r.level.fullUsage)
  else if !r.level.commands.isEmpty then
    let similar := similarTo word (r.level.commands.map (·.1))
    let tips := if similar.isEmpty then []
      else similarTip "subcommand" similar ++ [commandEscapeTip r.level.name word]
    refuse (.unrecognizedSubcommand word) tips (some r.level.fullUsage)
  else refuse (.unknownArgument word) [] (some r.level.fullUsage)

/-- Reads a long option, the word without its leading `--`. -/
def long (r : Reader) (body : String) (rest : List String) (s : Scan) : Reading Scan :=
  let (name, attached) : String × Option String :=
    match body.toList.span (· != '=') with
    | (n, []) => (String.ofList n, none)
    | (n, _ :: v) => (String.ofList n, some (String.ofList v))
  match r.level.findLong name with
  | some a =>
    if a.action == .value then
      match attached with
      | some v => r.take a [v] { s with awaiting := none }
      | none => r.await a s
    else
      match attached with
      | some v => throw (r.attachedToSwitch a v (r.settle s))
      | none => r.take a [] { s with awaiting := none }
  | none => throw (r.unknownLong name rest (r.settle s))

/-- Reads a cluster of short options. -/
def short (r : Reader) : List Char → Scan → Reading Scan
  | [], s => pure s
  | c :: more, s =>
    match r.level.findShort c with
    | some a =>
      if a.action == .value then
        if more.isEmpty then r.await a s
        else
          let value := match more with
            | '=' :: v => v
            | v => v
          r.take a [String.ofList value] { s with awaiting := none }
      else do
        let s ← r.take a [] { s with awaiting := none }
        r.short more s
    | none =>
      let s := r.settle s
      let arg := "-" ++ c.toString
      throw (refuse (.unknownArgument arg)
        (if !s.escaped && r.hasPositionals then [escapeTip arg] else [])
        (some r.level.fullUsage))

/-- Reads a positional word. -/
def positional (r : Reader) (word : String) (s : Scan) : Reading Scan :=
  match r.level.positional s.position with
  | some a => do
    let s ← r.resolve s
    pure { s with pending := some ⟨a, [word]⟩, position := s.position + 1 }
  | none => throw (r.stray word (r.settle s))

end Reader

/-- The help of the subcommands named by `words`, from the command `l` on. -/
def helpWalk (p : Program) (look : Lookup) : Level → List String → Stop
  | l, [] => .help (l.page look)
  | l, word :: rest =>
    match (if l.commands.isEmpty then none else p.levelOf? word) with
    | some sub => helpWalk p look sub rest
    | none => refuse (.unrecognizedSubcommand word) [] (some l.fullUsage)

/-- What reading one word leads to. -/
inductive Next where
  /-- Reading goes on with the next word. -/
  | more (s : Scan)
  /-- The subcommand of this name starts after the word. -/
  | command (name : String) (s : Scan)

namespace Reader

/-- Reads one word; `rest` are the words after it. -/
def word (r : Reader) (w : String) (rest : List String) (s : Scan) : Reading Next :=
  if !s.escaped && s.awaiting.isNone && r.level.hasCommand w then
    if w == "help" then throw (helpWalk r.program r.look r.level rest)
    else pure (.command w s)
  else if !s.escaped && w == "--" then pure (.more { s with escaped := true })
  else if !s.escaped && w.startsWith "--" then
    .more <$> r.long (String.ofList (w.toList.drop 2)) rest s
  else if !s.escaped && w.startsWith "-" && w != "-" then
    .more <$> r.short (w.toList.drop 1) s
  else
    match s.awaiting with
    | some a =>
      let values := match s.pending with
        | some p => p.values
        | none => []
      pure (.more { s with pending := some ⟨a, values ++ [w]⟩, awaiting := none })
    | none => .more <$> r.positional w s

/-- Reads words until they end or a subcommand starts; gives the state and the subcommand with
its words. -/
def scan (r : Reader) : List String → Scan → Reading (Scan × Option (String × List String))
  | [], s => pure (s, none)
  | w :: rest, s => do
    match ← r.word w rest s with
    | .more s => r.scan rest s
    | .command name s => pure (s, some (name, rest))

/-- Gives absent arguments the values of their environment variables. -/
def fromEnvironment (r : Reader) : List Arg → Scan → Reading Scan
  | [], s => pure s
  | a :: rest, s => do
    let s ← match a.env with
      | some name =>
        match r.look name with
        | some v => if s.has a.id then pure s else r.apply a [v] .environment s
        | none => pure s
      | none => pure s
    r.fromEnvironment rest s

/-- Completes a command whose words are read: settles what is pending, then takes values from
the environment and defaults. -/
def complete (r : Reader) (s : Scan) : Reading Scan := do
  let s ← r.resolve s
  let s ← r.fromEnvironment r.level.args s
  pure (r.level.args.foldl (fun s a =>
    match a.default with
    | some d => if s.has a.id then s else s.add ⟨a.id, [d], .default⟩
    | none => s) s)

/-- Refuses missing required arguments. -/
def requireArgs (r : Reader) (s : Scan) : Reading Unit :=
  let missing := r.level.args.filter fun a => a.required && !s.has a.id
  if missing.isEmpty then pure ()
  else
    let texts := (missing.filter (!·.isPositional)).map (·.textAs true) ++
      ((missing.filter Arg.isPositional).mergeSort
        fun a b => a.position.getD 0 ≤ b.position.getD 0).map (·.textAs true)
    throw (refuse (.missingRequired texts) []
      (some (r.level.usage (s.explicitIds ++ missing.map (·.id)))))

/-- Reads a command that takes no subcommand. -/
def readLeaf (r : Reader) (words : List String) : Reading (List Given) := do
  let (s, _) ← r.scan words {}
  let s ← r.complete s
  r.requireArgs s
  pure s.given

end Reader

/-- The arguments of a command line: the top command's, the subcommand's name and its own. -/
structure Parsed where
  top : List Given
  command : String
  own : List Given

namespace Parsed

/-- An argument, the subcommand's occurrence winning unless the top command's comes from a
stronger source. -/
def find? (p : Parsed) (id : String) : Option Given :=
  match p.top.find? (·.id == id), p.own.find? (·.id == id) with
  | some t, some o => if o.source.rank < t.source.rank then some t else some o
  | some t, none => some t
  | none, o => o

/-- The value of an argument. -/
def value? (p : Parsed) (id : String) : Option String := (p.find? id).bind (·.values.head?)

/-- Whether a switch was given. -/
def flag (p : Parsed) (id : String) : Bool := (p.find? id).isSome

end Parsed

/-- Reads a command line of a program, in an environment. -/
def read (p : Program) (look : Lookup) (words : List String) : Reading Parsed := do
  let top : Reader := ⟨p, p.top, look⟩
  let (s, sub) ← top.scan words {}
  match sub with
  | some (name, rest) =>
    let own ← match p.levelOf? name with
      | some level => Reader.readLeaf ⟨p, level, look⟩ rest
      | none => pure []
    let s ← top.complete s
    top.requireArgs s
    pure ⟨s.given, name, own⟩
  | none =>
    let s ← top.complete s
    if s.explicitIds.isEmpty then throw (.bare (p.top.page look))
    else
      throw (refuse (.missingSubcommand p.name (p.top.commands.map (·.1))) []
        (some p.top.fullUsage))

end BearerSession.CommandLine
