import BearerSession.CommandLine.Parse
import BearerSession.Http.Method
import BearerSession.Build.Stamp

/-!
# The `authwave` command line

The program takes the global options `--base-url`, `--session-file` (each also from an
environment variable), `--timeout-secs` (default 30), `-v` (counted) and `--json-logs`, and one
of five commands: `login --email E --password P` (the password also from
`AUTHWAVE_PASSWORD`), `logout`, `whoami`, `refresh`, and
`request METHOD PATH [--data JSON] [--no-refresh] [--compact]`.

A session file must be a non-empty path. A timeout is a decimal count of seconds below
2^64, with an optional `+`; it is read from the left, so the first bad digit or the first
digit that overflows decides the error. A method is one of `Http.Method`.

`Invocation.ofParsed` turns what was read into the settings and the command to run.
-/

namespace BearerSession.Console

open CommandLine

/-- Reads a decimal count below 2^64, with an optional leading `+`. -/
def readCount (text : String) : Except String Nat :=
  if text.isEmpty then .error "cannot parse integer from empty string"
  else
    let digits := match text.toList with
      | '+' :: rest => rest
      | cs => cs
    if digits.isEmpty then .error "invalid digit found in string"
    else
      let step := fun (n : Nat) (c : Char) =>
        if !c.isDigit then Except.error "invalid digit found in string"
        else
          let m := n * 10 + (c.toNat - '0'.toNat)
          if Nat.pow 2 64 ≤ m then .error "number too large to fit in target type" else .ok m
      digits.foldlM step 0

/-- The check of a count of seconds. -/
def countCheck (text : String) : Option ValueFault :=
  match readCount text with
  | .ok _ => none
  | .error reason => some (.invalid reason)

/-- The check of a path: it must not be empty. -/
def pathCheck (text : String) : Option ValueFault :=
  if text.isEmpty then some .empty else none

/-- The check of a method name. -/
def methodCheck (text : String) : Option ValueFault :=
  match Http.Method.parse text with
  | .ok _ => none
  | .error f => some (.invalid f.message)

/-- `--base-url`. -/
def baseUrlArg : Arg where
  id := "base_url"
  long := some "base-url"
  valueName := "BASE_URL"
  help := "Backend base URL, e.g. https://api.example.com"
  env := some "AUTHWAVE_BASE_URL"
  order := 0

/-- `--session-file`. -/
def sessionFileArg : Arg where
  id := "session_file"
  long := some "session-file"
  valueName := "SESSION_FILE"
  help := "Where the credential pair is kept between runs"
  env := some "AUTHWAVE_SESSION_FILE"
  order := 1
  check := pathCheck

/-- `--timeout-secs`. -/
def timeoutArg : Arg where
  id := "timeout_secs"
  long := some "timeout-secs"
  valueName := "TIMEOUT_SECS"
  help := "Per-request timeout in seconds"
  default := some "30"
  order := 2
  check := countCheck

/-- `-v`, `--verbose`. -/
def verboseArg : Arg where
  id := "verbose"
  long := some "verbose"
  short := some 'v'
  action := .count
  help := "Increase verbosity (-v, -vv, -vvv)"
  order := 3

/-- `--json-logs`. -/
def jsonLogsArg : Arg where
  id := "json_logs"
  long := some "json-logs"
  action := .flag
  help := "Output logs as JSON"
  order := 4

/-- `login`. -/
def loginCommand : Subcommand where
  name := "login"
  about := "Exchange email and password for a credential pair"
  args := [
    { id := "email", long := some "email", valueName := "EMAIL", help := "Account email",
      required := true, order := 0 },
    { id := "password", long := some "password", valueName := "PASSWORD",
      help := "Account password", required := true, env := some "AUTHWAVE_PASSWORD",
      hideEnvValue := true, order := 1 }]

/-- `request`. -/
def requestCommand : Subcommand where
  name := "request"
  about := "Send an authenticated request and print the response"
  args := [
    { id := "method", position := some 1, valueName := "METHOD", required := true,
      help := "HTTP method (GET, POST, PUT, PATCH, DELETE)", check := methodCheck },
    { id := "path", position := some 2, valueName := "PATH", required := true,
      help := "Path relative to the base URL, or an absolute URL" },
    { id := "data", long := some "data", valueName := "DATA", help := "JSON request body",
      order := 0 },
    { id := "no_refresh", long := some "no-refresh", action := .flag,
      help := "Send without the stored token and never renew it", order := 1 },
    { id := "compact", long := some "compact", action := .flag,
      help := "Print the response body as compact JSON", order := 2 }]

/-- The program's version: the stamp of a build outside a repository. -/
def version : String := Build.versionOf none

/-- The program. -/
def program : Program where
  name := "authwave"
  about := "CLI tool for exercising an authwave session against a backend"
  version := version
  globals := [baseUrlArg, sessionFileArg, timeoutArg, verboseArg, jsonLogsArg]
  commands := [loginCommand,
    ⟨"logout", "Forget the stored credential pair", []⟩,
    ⟨"whoami", "Fetch the current identity, renewing the session if needed", []⟩,
    ⟨"refresh", "Renew the credential pair now", []⟩,
    requestCommand]

/-- A command to run. -/
inductive Command where
  | login (email password : String)
  | logout
  | whoami
  | refresh
  | request (method : Http.Method) (path : String) (data : Option String)
      (noRefresh compact : Bool)
  deriving DecidableEq

/-- What a command line asks for: the settings and the command. -/
structure Invocation where
  baseUrl : Option String
  sessionFile : Option String
  command : Command
  deriving DecidableEq

/-- The invocation a command line was read as, if it names a command with its arguments. -/
def Invocation.ofParsed (p : Parsed) : Option Invocation := do
  let command : Command ← match p.command with
    | "login" => do
      let email ← p.value? "email"
      let password ← p.value? "password"
      pure (.login email password)
    | "logout" => pure .logout
    | "whoami" => pure .whoami
    | "refresh" => pure .refresh
    | "request" => do
      let method ← (Http.Method.parse (← p.value? "method")).toOption
      let path ← p.value? "path"
      pure (.request method path (p.value? "data") (p.flag "no_refresh") (p.flag "compact"))
    | _ => none
  return ⟨p.value? "base_url", p.value? "session_file", command⟩

end BearerSession.Console
