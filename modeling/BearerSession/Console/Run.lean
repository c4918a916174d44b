import BearerSession.Console.Program
import BearerSession.Console.Fault
import BearerSession.Http.Agent
import BearerSession.Session

/-!
# Running a command

A command runs on a `Machine`: environment variables, a directory tree with a working
directory, a network, the current instant and the home directory the user database gives the
running user. It keeps its session in a credential file: the `--session-file` path, else
`credentials.json` in the `authwave` directory of the data home (`$XDG_DATA_HOME` when that is
an absolute path, else `.local/share` in the home directory, which is `$HOME` when that is set
and not empty, else the user database's). With neither a session file nor a home directory every
command stops at once, `logout` included. Its client speaks to the base URL through an agent
that sends `User-Agent: authwave-cli/<version>`.

* `login` posts the credentials, stores the pair and prints where it went.
* `logout` clears the session file and says whether there was a session.
* `whoami` needs a session, fetches the profile (renewing the pair on a 401) and prints its
  fields and the time the session was saved.
* `refresh` needs a session, renews the pair and prints the time it was saved.
* `request` reads `--data` as JSON, sends the request, with the stored token unless
  `--no-refresh`, and prints the status line and the body; a refused request prints them too
  and then fails.

Results go to standard output; progress and status lines go to standard error. A command that
fails prints its fault on standard error and ends with status 1; a command line that cannot be
read ends with status 2, help and version with 0.
-/

namespace BearerSession.Console

open CommandLine Client

/-- What a command runs on. -/
structure Machine where
  env : List (String × String)
  tree : Disk.Tree
  network : Http.Network
  now : Clock.Instant
  /-- The home directory the user database gives the running user, if a non-empty one. -/
  account : Option String

/-- The value of an environment variable. -/
def Machine.look (m : Machine) : Lookup := fun name => (m.env.find? (·.1 == name)).map (·.2)

/-- What a run leaves: its exit status, its two streams and the tree. -/
structure Outcome where
  code : Nat
  out : String
  err : String
  tree : Disk.Tree

/-- The state of a running command: the tree and what it printed so far. -/
structure Effects where
  tree : Disk.Tree
  out : String := ""
  err : String := ""

/-- A step of a command. -/
abbrev Act := ExceptT Fault (StateM Effects)

/-- Prints a line on standard output. -/
def say (line : String) : Act Unit := modify fun c => { c with out := c.out ++ line ++ "\n" }

/-- Prints a line on standard error. -/
def note (line : String) : Act Unit := modify fun c => { c with err := c.err ++ line ++ "\n" }

/-- A success line. -/
def success (message : String) : String := "\u2713 " ++ message

/-- A field line: the label right-aligned in twelve columns, a colon and the value. -/
def field (label value : String) : String :=
  String.ofList (List.replicate (12 - label.length) ' ') ++ label ++ ": " ++ value

/-- A status line: the code and the reason, if there is one. -/
def statusLine (status : Nat) (reason : Option String) : String :=
  match reason with
  | some r => toString status ++ " " ++ r
  | none => toString status

/-- A JSON body as printed: pretty unless `compact`. -/
def bodyText (v : Json.Value) (compact : Bool) : String := if compact then v.compact else v.pretty

/-- An instant as the `Saved` field shows it, in UTC. -/
def savedText (t : Clock.Instant) : String := t.dateText ++ " " ++ t.clockText ++ " +00:00"

/-- The home directory: `$HOME` when it is set and not empty, else the user database's. -/
def homeDir (look : Lookup) (account : Option String) : Option String :=
  match look "HOME" with
  | some h => if h.isEmpty then account else some h
  | none => account

/-- The data home: `$XDG_DATA_HOME` if it is absolute, else `.local/share` in the home
directory. -/
def dataHome (look : Lookup) (home : String) : String :=
  match look "XDG_DATA_HOME" with
  | some d => if d.startsWith "/" then d else Disk.Path.push home ".local/share"
  | none => Disk.Path.push home ".local/share"

/-- The session file used when none is given; none when no home directory is known, even with
an absolute `$XDG_DATA_HOME`. -/
def defaultSessionPath (look : Lookup) (account : Option String) : Option String :=
  (homeDir look account).map fun home =>
    Disk.Path.push (Disk.Path.push (dataHome look home) "authwave") "credentials.json"

/-- The session file of a run: the one given, else the default of the machine. -/
def sessionPath? (m : Machine) (given : Option String) : Option String :=
  match given with
  | some path => some path
  | none => defaultSessionPath m.look m.account

/-- The fault of a run that can locate no session file. -/
def noDataDirectory : Fault := ⟨"Could not determine data directory", []⟩

/-- The `User-Agent` of the command line's client. -/
def userAgent : String := "authwave-cli/" ++ version

/-- The polls a request is given to complete; replies over an agent come at once. -/
def pollLimit : Nat := 8

/-- Polls an exchange until it completes. -/
def completeExchange {ν φ : Type} (tr : Transport ν φ) :
    Nat → Client ν × Poll (Exchange φ) Reply → Client ν × Reply
  | _, (c, .ready r) => (c, r)
  | 0, (c, .pending ex) => (ex.drop c, .error abandoned.toFailure)
  | n + 1, (c, .pending ex) => completeExchange tr n (ex.poll tr c)

/-- Polls a renewal until it completes. -/
def completeRenewal {ν φ : Type} (tr : Transport ν φ) :
    Nat → Client ν × Poll (Renewal φ) Renewed → Client ν × Renewed
  | _, (c, .ready r) => (c, r)
  | 0, (c, .pending r) => (r.drop c, .error abandoned.toFailure)
  | n + 1, (c, .pending r) => completeRenewal tr n (r.poll tr c)

/-- The transport of the command line's client. -/
def transport : Transport Http.Link Empty := Http.Link.transport

/-- What a command needs: the machine and the settings it was run with. -/
structure Context where
  machine : Machine
  baseUrl : Option String
  sessionPath : String

namespace Context

/-- The credential file. -/
def file (c : Context) : FileStore := ⟨c.sessionPath⟩

/-- Reads the session file, a failure turned into a fault by `wrap`. -/
def load (c : Context) (wrap : Failure → Fault) : Act (Option Saved) := do
  match c.file.load Disk.Tree.fileSystem (← get).tree with
  | .ok saved => pure saved
  | .error f => throw (wrap f)

/-- The stored session, which must be there. -/
def requireSession (c : Context) : Act Saved := do
  match ← c.load (Fault.within "Failed to load session") with
  | some saved => pure saved
  | none => throw ⟨"No active session. Run 'authwave login' first.", []⟩

/-- The client of the base URL, over the current tree. -/
def client (c : Context) : Act (Client Http.Link) := do
  let raw ← match c.baseUrl with
    | some raw => pure raw
    | none => throw ⟨"No backend configured. Pass --base-url or set AUTHWAVE_BASE_URL.", []⟩
  let base ← match BaseUrl.parse raw with
    | .ok base => pure base
    | .error f => throw (Fault.within "Invalid base URL" f)
  let agent ← match Http.Agent.build base userAgent with
    | .ok agent => pure agent
    | .error f => throw (Fault.within "Failed to build HTTP client" f)
  pure { store := .file c.file (← get).tree c.machine.now, net := ⟨agent, c.machine.network⟩ }

end Context

/-- Keeps the tree a client left. -/
def keep (c : Client Http.Link) : Act Unit :=
  match c.store with
  | .file _ tree _ => modify fun s => { s with tree }
  | .memory _ => pure ()

/-- Sends a request through a client to its reply. -/
def exchange (c : Client Http.Link) (q : Http.Request) (renews : Bool) :
    Client Http.Link × Reply :=
  completeExchange transport pollLimit (Client.start transport q renews c)

/-- `login`. -/
def login (ctx : Context) (email password : String) : Act Unit := do
  let client ← ctx.client
  note "Logging in..."
  let s : Session Http.Link := { client }
  let (client, reply) := exchange client (s.loginRequest ⟨email, password⟩) false
  let (s, r) := ({ s with client } : Session Http.Link).loggedIn reply
  keep s.client
  match r with
  | .error f => throw (Fault.within "Failed to login" f)
  | .ok () =>
    say (success "Logged in successfully")
    say ""
    say (field "Email" email)
    say (field "Session file" ctx.sessionPath)

/-- `logout`. -/
def logout (ctx : Context) : Act Unit := do
  let tree := (← get).tree
  let had := match ctx.file.load Disk.Tree.fileSystem tree with
    | .ok (some _) => true
    | _ => false
  let (tree, r) := ctx.file.clear Disk.Tree.fileSystem tree
  modify fun s => { s with tree }
  match r with
  | .error f => throw (Fault.within "Failed to remove session file" f)
  | .ok () => say (success (if had then "Logged out" else "No active session"))

/-- The text of a profile field's value: a string as it is, any other value as JSON. -/
def fieldValue : Json.Value → String
  | .string t => t
  | v => v.compact

/-- `whoami`. -/
def whoami (ctx : Context) : Act Unit := do
  let _ ← ctx.requireSession
  let client ← ctx.client
  let s : Session Http.Link := { client }
  let (client, reply) := exchange client s.profileRequest true
  let (s, profile) := ({ s with client } : Session Http.Link).probed reply
  keep s.client
  match profile with
  | none => throw ⟨"Session is no longer valid. Run 'authwave login' again.", []⟩
  | some p =>
    say (field "ID" (toString p.id))
    say (field "Email" p.email)
    for (k, v) in p.extra do
      say (field k (fieldValue v))
    if let some saved ← ctx.load Fault.ofFailure then
      say (field "Saved" (savedText saved.savedAt))

/-- `refresh`. -/
def refresh (ctx : Context) : Act Unit := do
  let _ ← ctx.requireSession
  let client ← ctx.client
  note "Refreshing session..."
  let (client, renewed) : Client Http.Link × Renewed := match client.store.accessToken with
    | .error f => (client, .error f)
    | .ok current =>
      completeRenewal transport pollLimit (Client.ensureFresh transport current client)
  keep client
  match renewed with
  | .error f => throw (Fault.within "Failed to refresh session" f)
  | .ok _ =>
    let saved ← ctx.requireSession
    say (success "Session refreshed successfully")
    say (field "Saved" (savedText saved.savedAt))

/-- Prints a response: the status line, then its JSON body, or its text when that is not JSON
and not empty. -/
def printResponse (r : Http.Response) (compact : Bool) : Act Unit := do
  note (statusLine r.status r.reason)
  match r.json? with
  | some v => say (bodyText v compact)
  | none => if !r.text.isEmpty then say r.text

/-- Prints what a request came to and ends as it did: a response is printed; a rejection
prints its status line and its JSON body, if any, and fails with `failed`; any other failure
fails with `failed` and the failure as its cause. -/
def answer (failed : String) (compact : Bool) : Reply → Act Unit
  | .ok r => printResponse r compact
  | .error (.requestFailed rejection) => do
    note (statusLine rejection.status rejection.reason)
    if let some d := rejection.data then say (bodyText d compact)
    throw ⟨failed, [rejection.text]⟩
  | .error f => throw (Fault.within failed f)

/-- `request`. -/
def request (ctx : Context) (method : Http.Method) (path : String) (data : Option String)
    (noRefresh compact : Bool) : Act Unit := do
  let q ← match data with
    | none => pure (Http.Request.new method path)
    | some text =>
      match Json.Value.parseText text with
      | .ok body => pure ((Http.Request.new method path).withBody body)
      | .error e => throw ⟨"--data is not valid JSON", [e.message]⟩
  let client ← ctx.client
  let failed := method.name ++ " " ++ path ++ " failed"
  let (client, reply) := exchange client q !noRefresh
  keep client
  answer failed compact reply

/-- Runs a command. -/
def perform (ctx : Context) : Command → Act Unit
  | .login email password => login ctx email password
  | .logout => logout ctx
  | .whoami => whoami ctx
  | .refresh => refresh ctx
  | .request method path data noRefresh compact => request ctx method path data noRefresh compact

/-- Runs the program with the words of its command line. -/
def run (m : Machine) (words : List String) : Outcome :=
  match read program m.look words with
  | .error stop =>
    if stop.failed then ⟨2, "", stop.text, m.tree⟩ else ⟨0, stop.text, "", m.tree⟩
  | .ok parsed =>
    match Invocation.ofParsed parsed with
    | none => ⟨2, "", "", m.tree⟩
    | some inv =>
      -- the session file is located before any command runs
      match sessionPath? m inv.sessionFile with
      | none => ⟨1, "", noDataDirectory.render, m.tree⟩
      | some path =>
        let (r, c) := (perform ⟨m, inv.baseUrl, path⟩ inv.command).run.run { tree := m.tree }
        match r with
        | .ok () => ⟨0, c.out, c.err, c.tree⟩
        | .error f => ⟨1, c.out, c.err ++ f.render, c.tree⟩

end BearerSession.Console
