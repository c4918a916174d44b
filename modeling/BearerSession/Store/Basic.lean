import BearerSession.Store.File

/-!
# Credential stores

A client keeps its credential pair in a `Store`: a slot in memory, which never fails, or a
credential file on a directory tree (`FileStore`), which stamps every pair it saves with the
instant `now`. Reading gives the pair or none; saving and clearing give the store after the
call, also when the call failed, since a failed file operation may have changed the tree.

The diagnostic form of a memory store shows whether it holds a pair, never the tokens.
-/

namespace BearerSession

/-- Where a client keeps its credential pair. -/
inductive Store where
  /-- A slot in memory. -/
  | memory (slot : Option Pair)
  /-- A credential file on a tree, with the instant that new pairs are stamped with. -/
  | file (at_ : FileStore) (tree : Disk.Tree) (now : Clock.Instant)

/-- The diagnostic form of a value behind a read-write lock that no one holds. -/
def lockedDebug (data : String) : String :=
  "RwLock \x7b data: " ++ data ++ ", poisoned: false, .. \x7d"

namespace Store

/-- The stored pair. -/
def get : Store → Except Failure (Option Pair)
  | .memory slot => .ok slot
  | .file at_ tree _ => at_.get Disk.Tree.fileSystem tree

/-- The stored access token. -/
def accessToken (s : Store) : Except Failure (Option AccessToken) :=
  s.get.map (Option.map Pair.access)

/-- The stored refresh token. -/
def refreshToken (s : Store) : Except Failure (Option RefreshToken) :=
  s.get.map (Option.map Pair.refresh)

/-- Saves a pair. -/
def set (s : Store) (pair : Pair) : Store × Except Failure Unit :=
  match s with
  | .memory _ => (.memory (some pair), .ok ())
  | .file at_ tree now =>
    let (tree', r) := at_.set Disk.Tree.fileSystem now pair tree
    (.file at_ tree' now, r)

/-- Removes the pair. -/
def clear (s : Store) : Store × Except Failure Unit :=
  match s with
  | .memory _ => (.memory none, .ok ())
  | .file at_ tree now =>
    let (tree', r) := at_.clear Disk.Tree.fileSystem tree
    (.file at_ tree' now, r)

/-- The diagnostic form of a memory store holding `slot`: the pair, its tokens hidden, behind
the lock that guards it. -/
def memoryDebug (slot : Option Pair) : String :=
  "MemoryCredentialStore \x7b pair: " ++
    lockedDebug (match slot with
      | some p => "Some(" ++ p.debug ++ ")"
      | none => "None") ++ " \x7d"

end Store

end BearerSession
