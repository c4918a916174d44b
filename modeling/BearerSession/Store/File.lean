import BearerSession.Disk.Call
import BearerSession.Failure
import BearerSession.Store.Saved
import BearerSession.Text.Utf8

/-!
# A credential file

A `FileStore` keeps the credential document at a path. Two siblings serve it: `<path>.lock`,
which every writer opens and locks first, and `<path>.tmp`, where a new document is written
before it is renamed onto the path, so that the path holds either the old document or the new
one.

* `load` reads the document: no file means no credentials, a file that is not UTF-8 text is an
  I/O failure, a document that does not read is corrupt.
* `set` creates the missing directories above the path, opens and locks the lock file, writes
  the document to the temporary file with the bits `rw-------`, syncs it, renames it onto the
  path and unlocks. The first failing call ends the work; the lock is given back even then.
* `clear` removes the file under the same lock; a missing file is no failure.

Every failure names the path as given. The work is written over any `FileSystem`, so what
is said about it holds whichever calls fail.
-/

namespace BearerSession

open Disk

/-- A credential file at a path. -/
structure FileStore where
  path : String
  deriving DecidableEq, Repr

namespace FileStore

variable {σ : Type}

/-- Where a new document is written before it replaces the old one. -/
def tempPath (s : FileStore) : String := Path.sibling s.path ".tmp"

/-- The file whose lock serializes the writers. -/
def lockPath (s : FileStore) : String := Path.sibling s.path ".lock"

/-- The permission bits of a credential file: `rw-------`. -/
def privateMode : Nat := 0o600

/-- A failed file operation on this store. -/
def ioFailure (s : FileStore) (e : IoError) : Failure := .storage (.io s.path e)

/-- The saved credentials, none when there is no file. -/
def load (fs : FileSystem σ) (s : FileStore) (st : σ) : Except Failure (Option Saved) :=
  match fs.read s.path st with
  | .error e => if e.isNotFound then .ok none else .error (s.ioFailure e)
  | .ok bytes =>
    match Text.Utf8.decode? bytes.toList with
    | none => .error (s.ioFailure .notText)
    | some text =>
      match Saved.parse text.toUTF8 with
      | .ok saved => .ok (some saved)
      | .error e => .error (.storage (.corrupt s.path e.message))

/-- The stored pair, none when there is no file. -/
def get (fs : FileSystem σ) (s : FileStore) (st : σ) : Except Failure (Option Pair) :=
  (s.load fs st).map (Option.map Saved.pair)

/-- Creates the directories above the path, then opens and locks the lock file. -/
def acquire (fs : FileSystem σ) (s : FileStore) : EStateM IoError σ Unit := do
  match Path.parent? s.path with
  | some parent =>
    if parent.isEmpty then pure () else fs.run (.makeDirs (Path.render parent))
  | none => pure ()
  fs.run (.openKeep s.lockPath)
  fs.run (.lock s.lockPath)

/-- Runs `body` holding the lock; the lock is given back whatever `body` does, and a failure
to give it back wins over the outcome of `body`. -/
def locked (fs : FileSystem σ) (s : FileStore) (body : EStateM IoError σ Unit) :
    EStateM IoError σ Unit := fun st =>
  match s.acquire fs st with
  | .error e st' => .error e st'
  | .ok () st' =>
    match body st' with
    | .ok () st'' => fs.run (.unlock s.lockPath) st''
    | .error e st'' =>
      match fs.run (.unlock s.lockPath) st'' with
      | .ok () st''' => .error e st'''
      | .error e' st''' => .error e' st'''

/-- Writes `contents` to the temporary file and renames it onto the path. -/
def replace (fs : FileSystem σ) (s : FileStore) (contents : ByteArray) :
    EStateM IoError σ Unit := do
  fs.run (.create s.tempPath)
  fs.run (.setMode s.tempPath privateMode)
  fs.run (.write s.tempPath contents)
  fs.run (.sync s.tempPath)
  fs.run (.rename s.tempPath s.path)

/-- Removes the file; a missing file is no failure. -/
def discard (fs : FileSystem σ) (s : FileStore) : EStateM IoError σ Unit := fun st =>
  match fs.run (.remove s.path) st with
  | .error e st' => if e.isNotFound then .ok () st' else .error e st'
  | .ok () st' => .ok () st'

/-- Runs a step, turning its failure into a failure of this store. -/
def outcome (s : FileStore) (step : EStateM IoError σ Unit) (st : σ) :
    σ × Except Failure Unit :=
  match step st with
  | .ok () st' => (st', .ok ())
  | .error e st' => (st', .error (s.ioFailure e))

/-- Saves a pair stamped with the instant `now`. -/
def set (fs : FileSystem σ) (s : FileStore) (now : Clock.Instant) (pair : Pair) (st : σ) :
    σ × Except Failure Unit :=
  s.outcome (s.locked fs (s.replace fs (Saved.document ⟨pair, now⟩).toUTF8)) st

/-- Removes the saved pair. -/
def clear (fs : FileSystem σ) (s : FileStore) (st : σ) : σ × Except Failure Unit :=
  s.outcome (s.locked fs (s.discard fs)) st

end FileStore

end BearerSession
