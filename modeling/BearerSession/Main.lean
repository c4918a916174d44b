import BearerSession.Console.Run
import Std.Time.DateTime

/-!
# The program on this machine

`Console.run` works on a `Machine`. This outer layer builds one from the process and carries
what the run changed back to the disk:

* the environment: the variables the program reads;
* the tree: the working directory, and of the session file, its lock file and the
  directories above them whatever is on disk;
* the network: one on which no server answers;
* the instant: the system clock, to the second;
* the home directory of the effective user in the user database.

After the run each file of the tree that is new or changed is written, with the directories
above it, each file that went away is removed, and the two streams are printed.
-/

namespace BearerSession.Console

open CommandLine

/-- The environment variables the program reads. -/
def consulted : List String :=
  ["AUTHWAVE_BASE_URL", "AUTHWAVE_SESSION_FILE", "AUTHWAVE_PASSWORD", "HOME", "XDG_DATA_HOME"]

/-- The route of a path from the top, read from the route `cwd` when it is relative. -/
def routeOf (cwd : List String) (path : String) : List String :=
  let start := if path.startsWith "/" then [] else cwd
  (path.splitOn "/").foldl (fun route part =>
    if part.isEmpty || part == "." then route
    else if part == ".." then route.dropLast
    else route ++ [part]) start

/-- The path of a route. -/
def pathOf (route : List String) : String := "/" ++ "/".intercalate route

/-- The routes that lead to a route, the top excluded, shortest first. -/
def above (route : List String) : List (List String) :=
  (List.range route.length).map fun n => route.take n |>.filter fun r => !r.isEmpty

/-- The session file a command line would use on a machine, if it can be read and located. -/
def sessionPathOf (m : Machine) (words : List String) : Option String :=
  match read program m.look words with
  | .error _ => none
  | .ok parsed => (Invocation.ofParsed parsed).bind fun inv => sessionPath? m inv.sessionFile

/-- The files of a tree, by route. -/
def filesOf (t : Disk.Tree) : List (List String × ByteArray) :=
  t.entries.filterMap fun
    | (route, .file contents _) => some (route, contents)
    | _ => none

/-- The files of `after` that are not in `before` with the same contents. -/
def written (before after : Disk.Tree) : List (List String × ByteArray) :=
  (filesOf after).filter fun (route, contents) =>
    !(filesOf before).any fun (r, c) => r == route && c.data == contents.data

/-- The files of `before` that are not in `after`. -/
def removed (before after : Disk.Tree) : List (List String) :=
  ((filesOf before).filter fun (route, _) => !(filesOf after).any (·.1 == route)).map (·.1)

end BearerSession.Console

open BearerSession BearerSession.Console

/-- What is on disk at a path: nothing, a directory, or a file with its contents. -/
def entryAt (path : String) : IO (Option Disk.Entry) := do
  let found ← try (do let _ ← IO.FS.realPath path; pure true) catch _ => pure false
  if !found then return none
  let contents ← try (some <$> IO.FS.readBinFile path) catch _ => pure none
  match contents with
  | some c => return some (.file c Disk.fileMode)
  | none => return some (.directory Disk.directoryMode)

/-- The tree of what a command can touch: the working directory, and the session file, its
lock file and the directories above them as they are on disk. -/
def snapshot (cwd : List String) (session : Option String) : IO Disk.Tree := do
  let mut t : Disk.Tree := { cwd }
  for r in above cwd ++ [cwd] do
    if !r.isEmpty then t := t.put r (.directory Disk.directoryMode)
  if let some path := session then
    let route := routeOf cwd path
    for r in above route ++ [route, routeOf cwd (FileStore.mk path).lockPath] do
      if !r.isEmpty then
        if let some e ← entryAt (pathOf r) then t := t.put r e
  return t

/-- The home directory of the effective user in the user database, if a non-empty one: the
effective id is the third field of the `Uid:` line of the process status, and the home
directory the sixth field of that id's line of `/etc/passwd`. -/
def accountHome : IO (Option String) := do
  try
    let status ← IO.FS.readFile "/proc/self/status"
    let uid? := (status.splitOn "\n").findSome? fun line =>
      let fields := (line.splitOn "\t").filter (· ≠ "")
      if fields.head? == some "Uid:" then fields[2]? else none
    match uid? with
    | none => return none
    | some uid =>
      let passwd ← IO.FS.readFile "/etc/passwd"
      return (passwd.splitOn "\n").findSome? fun line =>
        let fields := line.splitOn ":"
        if fields[2]? == some uid then fields[5]?.filter (· ≠ "") else none
  catch _ => return none

/-- Runs the command line and carries its changes back to the disk. -/
def main (args : List String) : IO UInt32 := do
  let env ← consulted.filterMapM fun name => do return (← IO.getEnv name).map (name, ·)
  let cwd := routeOf [] (← IO.currentDir).toString
  let seconds := (← Std.Time.Timestamp.now).toSecondsSinceUnixEpoch.val.toNat
  let account ← accountHome
  let bare : Machine :=
    ⟨env, { cwd }, Http.Network.unreachable, Clock.Instant.ofEpochSeconds seconds, account⟩
  let tree ← snapshot cwd (sessionPathOf bare args)
  let outcome := run { bare with tree } args
  for (route, contents) in written tree outcome.tree do
    IO.FS.createDirAll (pathOf route.dropLast)
    IO.FS.writeBinFile (pathOf route) contents
  for route in removed tree outcome.tree do
    try IO.FS.removeFile (pathOf route) catch _ => pure ()
  IO.print outcome.out
  IO.eprint outcome.err
  return outcome.code.toUInt32
