import BearerSession.Disk.Tree

/-!
# The calls a credential file makes on its file system

A credential file is written and removed through a few file system calls (`Call`), each of
which either succeeds or fails with an `IoError` and may change the file system either way.
`FileSystem σ` gives the effect of every call on a state `σ` and the reading of a file, and
`FileSystem.run` turns a call into a step of `EStateM IoError σ`, whose state survives a
failure: a failed call keeps what it changed.

`Tree.fileSystem` is the file system of a directory tree, where locking and syncing change
nothing. A file system that fails some calls on purpose is another `FileSystem`, so what is
written over the interface holds for every pattern of failures.
-/

namespace BearerSession.Disk

/-- A call on the file system. -/
inductive Call where
  /-- Creates a directory and the missing directories above it. -/
  | makeDirs (path : String)
  /-- Opens a file for writing without emptying it, creating it when missing. -/
  | openKeep (path : String)
  /-- Takes the exclusive lock of an open file. -/
  | lock (path : String)
  /-- Gives the lock back. -/
  | unlock (path : String)
  /-- Opens a file for writing, emptying it, creating it when missing. -/
  | create (path : String)
  /-- Sets the permission bits of a file. -/
  | setMode (path : String) (mode : Nat)
  /-- Writes octets at the end of an open file. -/
  | write (path : String) (contents : ByteArray)
  /-- Flushes a file to the device. -/
  | sync (path : String)
  /-- Moves a file onto another path, replacing what is there. -/
  | rename (source target : String)
  /-- Removes a file. -/
  | remove (path : String)

/-- A file system: the effect of each call on a state, and the contents of a file. -/
structure FileSystem (σ : Type) where
  perform : Call → σ → σ × Except IoError Unit
  read : String → σ → Except IoError ByteArray

namespace FileSystem

variable {σ : Type}

/-- A call as a step that keeps the state it reached when it fails. -/
def run (fs : FileSystem σ) (c : Call) : EStateM IoError σ Unit := fun s =>
  match fs.perform c s with
  | (s', .ok ()) => .ok () s'
  | (s', .error e) => .error e s'

/-- Reading a file as a step. -/
def load (fs : FileSystem σ) (path : String) : EStateM IoError σ ByteArray := fun s =>
  match fs.read path s with
  | .ok bytes => .ok bytes s
  | .error e => .error e s

end FileSystem

namespace Tree

/-- The tree after a change, or the error number of the change. -/
def settle (t : Tree) : Except Errno Tree → Tree × Except IoError Unit
  | .ok t' => (t', .ok ())
  | .error e => (t, .error (.os e))

/-- The effect of a call on a tree. -/
def perform (c : Call) (t : Tree) : Tree × Except IoError Unit :=
  match c with
  | .makeDirs path =>
    match t.makeDirs path with
    | .ok t' => (t', .ok ())
    | .error e => (t, .error e)
  | .openKeep path => t.settle (t.openFile path false)
  | .lock _ => (t, .ok ())
  | .unlock _ => (t, .ok ())
  | .create path => t.settle (t.openFile path true)
  | .setMode path mode => t.settle (t.setMode path mode)
  | .write path contents => t.settle (t.append path contents)
  | .sync _ => (t, .ok ())
  | .rename source target => t.settle (t.rename source target)
  | .remove path => t.settle (t.unlink path)

/-- The file system of a directory tree. -/
def fileSystem : FileSystem Tree where
  perform := perform
  read path t := (t.read path).mapError .os

end Tree

end BearerSession.Disk
