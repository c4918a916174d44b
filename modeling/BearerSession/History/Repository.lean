import BearerSession.Digest.Sha1

/-!
# A repository of empty commits and tags

A repository here holds a line of commits, each on top of the last, all of the empty tree,
and tags on them. It is written the way a version control system stores objects: an object is
its kind, its size, a zero octet and its body, and its id is the SHA-1 of that, in hexadecimal.

A commit names the empty tree, its parent (none for the first), its author and committer (the
same signature) and its message. The message is cleaned first: trailing spaces, tabs and
carriage returns leave every line, runs of empty lines become one, empty lines at the start
and end go, and the message ends in a newline. A message that cleans to nothing makes no
commit.

A tag names the commit at the head; a lightweight tag is only the name, an annotated one is
also an object. A tag needs a commit to name and a valid name that is not taken: not empty,
not starting with `-`, and valid as the ref `refs/tags/<name>` (no empty part, no part starting
with `.` or ending in `.lock`, no `..` or `@{`, no control character, space or any of
`~^:?*[\`, not ending in `.`).
-/

namespace BearerSession.History

open Digest

/-- Who made a commit or tag, and when: seconds since the epoch, in UTC. -/
structure Signature where
  name : String
  mail : String
  time : Nat

/-- A signature as objects write it. -/
def Signature.line (s : Signature) : String :=
  s.name ++ " <" ++ s.mail ++ "> " ++ toString s.time ++ " +0000"

/-- The id of an object of a kind with a body. -/
def objectId (kind : String) (body : List UInt8) : String :=
  hex (sha1 ((kind ++ " " ++ toString body.length).toUTF8.toList ++ [0] ++ body))

/-- The id of the empty tree. -/
def emptyTree : String := objectId "tree" []

/-- Whether a character is blank at the end of a line of a message. -/
def isLineBlank (c : Char) : Bool := c == ' ' || c == '\t' || c == '\n' || c == '\r'

/-- A message cleaned as commits store it. -/
def cleanMessage (text : String) : String :=
  let lines := (text.splitOn "\n").map fun l =>
    String.ofList (l.toList.reverse.dropWhile isLineBlank).reverse
  let (kept, _) := lines.foldl (fun (acc : List String × Bool) line =>
    let (kept, gap) := acc
    if line.isEmpty then (kept, true)
    else (kept ++ (if gap && !kept.isEmpty then [""] else []) ++ [line], false)) ([], false)
  String.join (kept.map (· ++ "\n"))

/-- Whether a character may not stand in a ref name. -/
def badInRef (c : Char) : Bool :=
  c.toNat < 0x20 || c.toNat == 0x7F || " ~^:?*[\\".contains c

/-- Whether a part of a ref name is valid. -/
def validRefPart (part : String) : Bool :=
  !part.isEmpty && !part.startsWith "." && !part.endsWith ".lock"

/-- Whether a ref name is valid. -/
def validRef (ref : String) : Bool :=
  ref != "@" && !ref.endsWith "." && !ref.endsWith "/" && (ref.splitOn "..").length == 1 &&
    (ref.splitOn "@\x7b").length == 1 && !ref.toList.any badInRef &&
    (ref.splitOn "/").all validRefPart

/-- Whether a tag name is valid. -/
def validTagName (name : String) : Bool :=
  !name.isEmpty && !name.startsWith "-" && validRef ("refs/tags/" ++ name)

/-- A commit: its id and its parent. -/
structure Commit where
  id : String
  parent : Option String

/-- A tag: its name, the commit it names, and whether it is annotated. -/
structure Tag where
  name : String
  target : String
  annotated : Bool

/-- A repository: its commits, newest first, its tags in the order made, the ids of all its
objects, and the signature of whoever works in it. -/
structure Repository where
  signature : Signature
  commits : List Commit := []
  tags : List Tag := []
  objects : List String := []

namespace Repository

/-- The commit at the head. -/
def head? (r : Repository) : Option String := r.commits.head?.map (·.id)

/-- Adds an object id, once. -/
def store (r : Repository) (id : String) : Repository :=
  if r.objects.contains id then r else { r with objects := r.objects ++ [id] }

/-- The body of a commit with a parent and a cleaned message. -/
def commitBody (r : Repository) (parent : Option String) (message : String) : String :=
  "tree " ++ emptyTree ++ "\n" ++
    (match parent with
      | some p => "parent " ++ p ++ "\n"
      | none => "") ++
    "author " ++ r.signature.line ++ "\ncommitter " ++ r.signature.line ++ "\n\n" ++ message

/-- Makes an empty commit on the head. -/
def commit (r : Repository) (message : String) : Repository :=
  let message := cleanMessage message
  if message.isEmpty then r
  else
    let id := objectId "commit" (r.commitBody r.head? message).toUTF8.toList
    { (r.store emptyTree).store id with commits := ⟨id, r.head?⟩ :: r.commits }

/-- The body of an annotated tag of a commit. -/
def tagBody (r : Repository) (target name : String) : String :=
  "object " ++ target ++ "\ntype commit\ntag " ++ name ++ "\ntagger " ++ r.signature.line ++
    "\n\n" ++ name ++ "\n"

/-- Tags the head, annotated or not. -/
def tag (r : Repository) (name : String) (annotated : Bool) : Repository :=
  match r.head? with
  | none => r
  | some target =>
    if !validTagName name || r.tags.any (·.name == name) then r
    else
      let r := if annotated then r.store (objectId "tag" (r.tagBody target name).toUTF8.toList)
        else r
      { r with tags := r.tags ++ [⟨name, target, annotated⟩] }

/-- The parent of a commit. -/
def parentOf (r : Repository) (id : String) : Option String :=
  (r.commits.find? (·.id == id)).bind (·.parent)

/-- The commits from `id` back to the first, newest first. -/
def lineFrom (r : Repository) (id : String) : List String :=
  (List.range r.commits.length).foldl (fun (line : List String) _ =>
    match line.getLast? >>= r.parentOf with
    | some p => line ++ [p]
    | none => line) [id]

end Repository

end BearerSession.History
