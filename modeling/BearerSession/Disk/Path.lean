/-!
# Paths as names are built from them

A path is text whose parts are split by `/`. To build the name of a file beside a path, the
path is read as a list of parts (`Path.parts`): a leading `/` is the top, a leading `.` is
kept, `..` is a step up, every other non-empty part is a name, and empty parts and inner `.`
are dropped. So `./sub/./c.json` has the parts `.`, `sub`, `c.json`, and `c.json/` has the
single part `c.json`.

The last part of a path is its file name when it is a name (`Path.fileName?`); the parts
before it are its parent (`Path.parent?`). A sibling (`Path.sibling`) is the path with its
file name extended by a suffix, or the path with the suffix added as a new part when it has
no file name: the siblings of `a/c.json` for `.tmp` and `.lock` are `a/c.json.tmp` and
`a/c.json.lock`, those of `.` are `./.tmp` and `./.lock`.

How the file system itself reads a path, with `..` resolved against the directories that
exist, is the business of the tree (`Disk.Tree`).
-/

namespace BearerSession.Disk

/-- A part of a path. -/
inductive Part where
  /-- The top directory, written as a leading `/`. -/
  | top
  /-- The current directory, written as a leading `.`. -/
  | here
  /-- The directory above, written `..`. -/
  | up
  /-- A name. -/
  | name (text : String)
  deriving DecidableEq, Repr

/-- The text of a part. -/
def Part.text : Part → String
  | .top => ""
  | .here => "."
  | .up => ".."
  | .name s => s

namespace Path

/-- The parts of a path. -/
def parts (p : String) : List Part :=
  let pieces := p.splitOn "/"
  let top := p.startsWith "/"
  let lead : List Part :=
    if top then [.top]
    else match pieces with
      | "." :: _ => [.here]
      | _ => []
  let body := pieces.filterMap fun piece =>
    if piece = "" || piece = "." then none
    else if piece = ".." then some Part.up
    else some (Part.name piece)
  lead ++ body

/-- The text of a list of parts, joined by `/`. -/
def render : List Part → String
  | [] => ""
  | [.top] => "/"
  | .top :: rest => "/" ++ "/".intercalate (rest.map Part.text)
  | ps => "/".intercalate (ps.map Part.text)

/-- The file name of a path: its last part, when that is a name. -/
def fileName? (p : String) : Option String :=
  match (parts p).getLast? with
  | some (.name s) => some s
  | _ => none

/-- The parts before the last one, unless the path is empty or only the top. -/
def parent? (p : String) : Option (List Part) :=
  match (parts p).reverse with
  | [] => none
  | .top :: _ => none
  | _ :: rest => some rest.reverse

/-- `base` followed by the part `name`, with one `/` between them. -/
def push (base name : String) : String :=
  if base.isEmpty || base.endsWith "/" then base ++ name else base ++ "/" ++ name

/-- The path beside `p` whose file name is that of `p` followed by `suffix`. -/
def sibling (p suffix : String) : String :=
  match fileName? p, parent? p with
  | some n, some parent => push (render parent) (n ++ suffix)
  | _, _ => push p suffix

end Path

end BearerSession.Disk
