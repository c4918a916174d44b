import BearerSession.Disk.Errno
import BearerSession.Disk.Path

/-!
# A directory tree and the file operations on it

A `Tree` holds every file and directory below a top directory by its route: the list of
names that leads to it. The top directory itself always exists. A path that starts with `/`
is read from the top directory, any other from the working directory `cwd`.

The file system reads a path part by part (`Tree.locate`): empty parts are skipped, `.` stays,
`..` goes up one directory, and every part before the last must be a directory that exists
(`No such file or directory` when it is missing, `Not a directory` when it is a file). A path
that ends in `.`, `..` or nothing names a directory (`Target.directory`); otherwise its last
part is an entry of a directory, which must itself be a directory when the path ends in `/`.
The empty path names nothing.

Each operation fails as the system call it stands for does: reading a directory gives
`Is a directory`; creating a file where a directory is gives `Is a directory`; renaming a file
onto a directory gives `Is a directory`, onto a path that ends in `/` `Not a directory`, and
onto `.` or `..` `Device or resource busy`; removing a directory gives `Is a directory`.
`Tree.makeDirs` creates a directory and every missing directory above it, and succeeds when
the directory is already there.
-/

namespace BearerSession.Disk

/-- What a route leads to. -/
inductive Entry where
  /-- A file with its contents and permission bits. -/
  | file (contents : ByteArray) (mode : Nat)
  /-- A directory with its permission bits. -/
  | directory (mode : Nat)

/-- The permission bits of an entry. -/
def Entry.mode : Entry → Nat
  | .file _ m => m
  | .directory m => m

/-- Whether an entry is a directory. -/
def Entry.isDirectory : Entry → Bool
  | .file _ _ => false
  | .directory _ => true

/-- Files and directories below a top directory, each by its route, and the working directory
that relative paths start from. -/
structure Tree where
  entries : List (List String × Entry) := []
  cwd : List String := []

/-- What a path names, once the directories before its last part are found. -/
inductive Target where
  /-- A directory named by `.`, `..` or by no part at all. -/
  | directory (route : List String)
  /-- The entry `name` of the directory at `parent`; `asDirectory` when the path ends in `/`. -/
  | entry (parent : List String) (name : String) (asDirectory : Bool)

/-- Files are created with the bits `rw-r--r--`, directories with `rwxr-xr-x`. -/
def fileMode : Nat := 0o644

/-- The permission bits of a new directory. -/
def directoryMode : Nat := 0o755

namespace Tree

/-- The entry at a route; the empty route is the top directory. -/
def find? (t : Tree) (route : List String) : Option Entry :=
  if route.isEmpty then some (.directory directoryMode)
  else (t.entries.find? (·.1 == route)).map (·.2)

/-- The tree with `e` at `route`, in place of what was there. -/
def put (t : Tree) (route : List String) (e : Entry) : Tree :=
  if t.entries.any (·.1 == route) then
    { t with entries := t.entries.map fun (r, x) => if r == route then (r, e) else (r, x) }
  else { t with entries := t.entries ++ [(route, e)] }

/-- The tree without the entry at `route`. -/
def erase (t : Tree) (route : List String) : Tree :=
  { t with entries := t.entries.filter (·.1 != route) }

/-- Follows the parts of a path from `here` through directories that exist. -/
def walk (t : Tree) (here : List String) : List String → Except Errno (List String)
  | [] => .ok here
  | "." :: rest => t.walk here rest
  | ".." :: rest => t.walk here.dropLast rest
  | part :: rest =>
    let next := here ++ [part]
    match t.find? next with
    | none => .error .noEntry
    | some (.file _ _) => .error .notDirectory
    | some (.directory _) => t.walk next rest

/-- Where a path starts: the top directory for an absolute path, else the working directory. -/
def start (t : Tree) (path : String) : List String :=
  if path.startsWith "/" then [] else t.cwd

/-- What a path names. -/
def locate (t : Tree) (path : String) : Except Errno Target :=
  if path.isEmpty then .error .noEntry
  else
    let parts := (path.splitOn "/").filter (· ≠ "")
    match parts.reverse with
    | [] => .ok (.directory [])
    | last :: earlier => do
      let parent ← t.walk (t.start path) earlier.reverse
      if last = "." then return .directory parent
      else if last = ".." then return .directory parent.dropLast
      else return .entry parent last (path.endsWith "/")

/-- The entry a path names, if there is one. -/
def lookup (t : Tree) (path : String) : Option Entry :=
  match t.locate path with
  | .ok (.directory route) => t.find? route
  | .ok (.entry parent name asDirectory) =>
    match t.find? (parent ++ [name]) with
    | some (.file contents mode) => if asDirectory then none else some (.file contents mode)
    | other => other
  | .error _ => none

/-- Whether a path names something. -/
def exists? (t : Tree) (path : String) : Bool := (t.lookup path).isSome

/-- Whether a path names a directory. -/
def isDirectory (t : Tree) (path : String) : Bool :=
  match t.lookup path with
  | some e => e.isDirectory
  | none => false

/-- The contents of the file a path names. -/
def read (t : Tree) (path : String) : Except Errno ByteArray := do
  match ← t.locate path with
  | .directory _ => throw .isDirectory
  | .entry parent name asDirectory =>
    match t.find? (parent ++ [name]) with
    | none => throw .noEntry
    | some (.directory _) => throw .isDirectory
    | some (.file contents _) => if asDirectory then throw .notDirectory else return contents

/-- Creates one directory. -/
def makeDir (t : Tree) (path : String) : Except Errno Tree := do
  match ← t.locate path with
  | .directory _ => throw .alreadyExists
  | .entry parent name _ =>
    match t.find? (parent ++ [name]) with
    | some _ => throw .alreadyExists
    | none => return t.put (parent ++ [name]) (.directory directoryMode)

/-- Creates the directory of the parts `rev.reverse` and every missing one above it. -/
def makeDirsRev (t : Tree) : List Part → Except IoError Tree
  | [] => .ok t
  | last :: earlier =>
    let path := Path.render (last :: earlier).reverse
    match t.makeDir path with
    | .ok t' => .ok t'
    | .error e =>
      if e != .noEntry then
        if t.isDirectory path then .ok t else .error (.os e)
      else if last = .top then .error (.other "failed to create whole tree")
      else
        match t.makeDirsRev earlier with
        | .error e => .error e
        | .ok t' =>
          match t'.makeDir path with
          | .ok t'' => .ok t''
          | .error e => if t'.isDirectory path then .ok t' else .error (.os e)

/-- Creates a directory and every missing directory above it. -/
def makeDirs (t : Tree) (path : String) : Except IoError Tree :=
  t.makeDirsRev (Path.parts path).reverse

/-- Opens a file for writing, creating it empty when it is missing; `truncate` empties a file
that is there. -/
def openFile (t : Tree) (path : String) (truncate : Bool) : Except Errno Tree := do
  match ← t.locate path with
  | .directory _ => throw .isDirectory
  | .entry parent name asDirectory =>
    let route := parent ++ [name]
    match t.find? route with
    | some (.directory _) => throw .isDirectory
    | some (.file _ mode) =>
      if asDirectory then throw .notDirectory
      else if truncate then return t.put route (.file ByteArray.empty mode)
      else return t
    | none =>
      if asDirectory then throw .isDirectory
      else return t.put route (.file ByteArray.empty fileMode)

/-- The route of the file a path names. -/
def fileRoute (t : Tree) (path : String) : Except Errno (List String) := do
  match ← t.locate path with
  | .directory _ => throw .isDirectory
  | .entry parent name asDirectory =>
    let route := parent ++ [name]
    match t.find? route with
    | some (.file _ _) => if asDirectory then throw .notDirectory else return route
    | some (.directory _) => return route
    | none => throw .noEntry

/-- Sets the permission bits of what a path names. -/
def setMode (t : Tree) (path : String) (mode : Nat) : Except Errno Tree := do
  let route ← t.fileRoute path
  match t.find? route with
  | some (.file contents _) => return t.put route (.file contents mode)
  | some (.directory _) => return t.put route (.directory mode)
  | none => throw .noEntry

/-- Writes `contents` at the end of the file a path names. -/
def append (t : Tree) (path : String) (contents : ByteArray) : Except Errno Tree := do
  let route ← t.fileRoute path
  match t.find? route with
  | some (.file old mode) => return t.put route (.file (old ++ contents) mode)
  | some (.directory _) => throw .isDirectory
  | none => throw .noEntry

/-- Moves the file `source` to `target`, replacing a file there. -/
def rename (t : Tree) (source target : String) : Except Errno Tree := do
  let origin ← t.locate source
  let destination ← t.locate target
  match origin, destination with
  | .directory _, _ => throw .busy
  | _, .directory _ => throw .busy
  | .entry sp sn sd, .entry tp tn td =>
    let sr := sp ++ [sn]
    let tr := tp ++ [tn]
    match t.find? sr with
    | none => throw .noEntry
    | some (.directory _) => throw .isDirectory
    | some moved =>
      if sd || td then throw .notDirectory
      else match t.find? tr with
        | some (.directory _) => throw .isDirectory
        | _ => if sr == tr then return t else return (t.erase sr).put tr moved

/-- Removes the file a path names. -/
def unlink (t : Tree) (path : String) : Except Errno Tree := do
  match ← t.locate path with
  | .directory _ => throw .isDirectory
  | .entry parent name asDirectory =>
    let route := parent ++ [name]
    match t.find? route with
    | none => throw .noEntry
    | some (.directory _) => throw .isDirectory
    | some (.file _ _) => if asDirectory then throw .notDirectory else return t.erase route

/-- Writes a file whole, creating the directories above it first. -/
def writeWhole (t : Tree) (path : String) (contents : ByteArray) :
    Except IoError Tree := do
  let t ← match Path.parent? path with
    | some parent => if parent.isEmpty then pure t else t.makeDirs (Path.render parent)
    | none => pure t
  let t ← (t.openFile path true).mapError .os
  (t.append path contents).mapError .os

end Tree

end BearerSession.Disk
