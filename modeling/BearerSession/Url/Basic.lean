import BearerSession.Url.Host

/-!
# URLs

A URL (`Url`) is a scheme, credentials, a host with a port, a path, a query and a fragment,
read by the WHATWG URL parsing rules (`Url.parse`) and written back by `Url.text`.

Reading starts by dropping control characters and blanks at both ends and every tab and line
break. The scheme is ASCII letters, digits, `+`, `-` and `.`, starting with a letter, before a
`:`, and is kept in lower case; without one the text is a relative URL, which needs a base.

* The special schemes `http`, `https`, `ws`, `wss` and `ftp` skip any number of `/` and `\`
  after the scheme, then read credentials up to the last `@` of the authority, a host that may
  not be empty (`Host.parse`), and a port, dropped when it is the scheme's default. `\` counts
  as `/` throughout.
* Other schemes read an authority only after `//`, and keep their host as text. Without one,
  a path that does not start with `/` is opaque: the URL cannot be a base.
* `file` reads a host after two slashes, `localhost` naming none.

The path is split into segments; `.` segments vanish and `..` segments remove the segment
before them, also when written `%2e`. Segments, query and fragment are percent-encoded, each
with its own set of characters, and octets beyond ASCII always.
-/

namespace BearerSession.Url

/-- The kinds of scheme. -/
inductive SchemeKind where
  | special
  | file
  | other
  deriving DecidableEq

/-- The kind of a scheme. -/
def schemeKind : String → SchemeKind
  | "http" | "https" | "ws" | "wss" | "ftp" => .special
  | "file" => .file
  | _ => .other

/-- The port a scheme uses when none is given. -/
def defaultPort : String → Option Nat
  | "http" | "ws" => some 80
  | "https" | "wss" => some 443
  | "ftp" => some 21
  | _ => none

/-- The path of a URL: a list of segments, or an opaque text for a URL that cannot be a base. -/
inductive UrlPath where
  | flat (text : String)
  | segments (parts : List String)
  deriving DecidableEq, Repr

end BearerSession.Url

namespace BearerSession

/-- A URL. -/
structure Url where
  scheme : String
  username : String := ""
  password : String := ""
  host : Option Url.Host := none
  port : Option Nat := none
  path : Url.UrlPath
  query : Option String := none
  fragment : Option String := none
  deriving DecidableEq, Repr

end BearerSession

namespace BearerSession.Url

/-! ## Percent-encode sets -/

/-- Control characters are always encoded. -/
def inControls (c : Char) : Bool := isControl c

/-- Characters encoded in a fragment. -/
def inFragmentSet (c : Char) : Bool := inControls c || " \"<>`".toList.contains c

/-- Characters encoded in a query. -/
def inQuerySet (c : Char) : Bool := inControls c || " \"#<>".toList.contains c

/-- Characters encoded in the query of a special URL. -/
def inSpecialQuerySet (c : Char) : Bool := inQuerySet c || c == '\''

/-- Characters encoded in a path segment. -/
def inPathSet (c : Char) : Bool := inFragmentSet c || "#?{}".toList.contains c

/-- Characters encoded in credentials. -/
def inUserinfoSet (c : Char) : Bool := inPathSet c || "/:;=@[\\]^|".toList.contains c

/-- Percent-encodes a text with a set. -/
def encodeWith (set : Char → Bool) (cs : List Char) : String :=
  String.join (cs.map (percentEncode set))

/-! ## Writing -/

/-- The text of the host, none when there is none or it is empty. -/
def hostText? (u : Url) : Option String :=
  match u.host with
  | some (.domain "") => none
  | some h => some h.text
  | none => none

/-- Whether the URL cannot be a base: its path is opaque. -/
def cannotBeABase (u : Url) : Bool :=
  match u.path with
  | .flat _ => true
  | .segments _ => false

/-- The text of the path. -/
def pathText (u : Url) : String :=
  match u.path with
  | .flat t => t
  | .segments ps => String.join (ps.map ("/" ++ ·))

/-- The text of a URL. -/
def text (u : Url) : String :=
  let authority := match u.host with
    | some h =>
      let creds :=
        if u.username.isEmpty && u.password.isEmpty then ""
        else u.username ++ (if u.password.isEmpty then "" else ":" ++ u.password) ++ "@"
      "//" ++ creds ++ h.text ++ (match u.port with | some p => ":" ++ toString p | none => "")
    | none =>
      match u.path with
      | .segments ("" :: _ :: _) => "/."
      | _ => ""
  u.scheme ++ ":" ++ authority ++ u.pathText ++
    (match u.query with | some q => "?" ++ q | none => "") ++
    (match u.fragment with | some f => "#" ++ f | none => "")

/-! ## Reading -/

/-- Drops control characters and blanks at both ends, and every tab and line break. -/
def prepare (input : String) : List Char :=
  let edge := fun (c : Char) => c.toNat ≤ 0x20
  ((input.toList.dropWhile edge).reverse.dropWhile edge).reverse.filter
    fun c => c != '\t' && c != '\n' && c != '\r'

/-- The scheme in lower case and the text after its `:`. -/
def scheme? (cs : List Char) : Option (String × List Char) :=
  match cs with
  | c :: _ =>
    if !c.isAlpha then none
    else
      let name := cs.takeWhile fun c => c.isAlphanum || c == '+' || c == '-' || c == '.'
      match cs.drop name.length with
      | ':' :: rest => some (String.ofList (name.map Char.toLower), rest)
      | _ => none
  | [] => none

/-- Whether a path segment, as encoded, is `.`. -/
def isSingleDot (s : String) : Bool := s == "." || s.toLower == "%2e"

/-- Whether a path segment, as encoded, is `..`. -/
def isDoubleDot (s : String) : Bool :=
  let t := s.toLower
  t == ".." || t == ".%2e" || t == "%2e." || t == "%2e%2e"

/-- Reads path segments onto `path` until `?`, `#` or the end; `\` separates segments in a
special URL. -/
def segments (special : Bool) (path : List String) (cs : List Char) :
    List String × List Char :=
  let isSep := fun (c : Char) => c == '/' || (special && c == '\\')
  let raw := cs.takeWhile fun c => !isSep c && c != '?' && c != '#'
  let buffer := encodeWith inPathSet raw
  let last := match cs.drop raw.length with
    | c :: _ => !isSep c
    | [] => true
  let path :=
    if isDoubleDot buffer then path.dropLast ++ (if last then [""] else [])
    else if isSingleDot buffer then path ++ (if last then [""] else [])
    else path ++ [buffer]
  match _hRest : cs.drop raw.length with
  | c :: more => if isSep c then segments special path more else (path, c :: more)
  | [] => (path, [])
termination_by cs.length
decreasing_by
  have h1 : (cs.drop raw.length).length ≤ cs.length := by simp
  rw [_hRest] at h1
  simp at h1
  omega

/-- Reads the query and the fragment. -/
def queryAndFragment (special : Bool) (cs : List Char) : Option String × Option String :=
  let (query, cs) := match cs with
    | '?' :: rest =>
      let q := rest.takeWhile (· != '#')
      (some (encodeWith (if special then inSpecialQuerySet else inQuerySet) q),
        rest.drop q.length)
    | _ => (none, cs)
  let fragment := match cs with
    | '#' :: rest => some (encodeWith inFragmentSet rest)
    | _ => none
  (query, fragment)

/-- Reads a port after `:`: digits up to `/`, `\`, `?`, `#` or the end. -/
def port? (scheme : String) (cs : List Char) : Except UrlError (Option Nat × List Char) := do
  let run := cs.takeWhile Char.isDigit
  let rest := cs.drop run.length
  match rest with
  | c :: _ => unless "/\\?#".toList.contains c do throw .invalidPort
  | [] => pure ()
  let value := (digitsValue 10 run).getD 0
  if value > 65535 then throw .invalidPort
  if run.isEmpty || defaultPort scheme == some value then return (none, rest)
  return (some value, rest)

/-- Splits credentials into user name and password, each encoded. -/
def credentials (info : List Char) : String × String :=
  let user := info.takeWhile (· != ':')
  let pass := (info.drop user.length).drop 1
  (encodeWith inUserinfoSet user, encodeWith inUserinfoSet pass)

/-- The host's characters up to a `:` outside brackets or a delimiter, and the rest. -/
def hostPart (special inside : Bool) : List Char → List Char × List Char
  | [] => ([], [])
  | c :: rest =>
    if (c == ':' && !inside) || c == '/' || c == '?' || c == '#' || (special && c == '\\') then
      ([], c :: rest)
    else
      let inside := if c == '[' then true else if c == ']' then false else inside
      let (h, r) := hostPart special inside rest
      (c :: h, r)

/-- Reads the credentials of an authority, up to its last `@`, and gives the text after them.
An `@` with nothing before it names no credentials; followed by a delimiter, it leaves the host
empty and is refused. -/
def userinfo (special : Bool) (cs : List Char) : Except UrlError (String × String × List Char) :=
  let stop := fun (c : Char) => c == '/' || c == '?' || c == '#' || (special && c == '\\')
  let region := cs.takeWhile (!stop ·)
  let lastAt := (region.zipIdx.filter (·.1 == '@')).getLast?.map (·.2)
  match lastAt with
  | none => pure ("", "", cs)
  | some 0 =>
    let after := cs.drop 1
    match after with
    | c :: _ => if stop c then throw .emptyHost else pure ("", "", after)
    | [] => pure ("", "", after)
  | some k =>
    let (u, p) := credentials (cs.take k)
    pure (u, p, cs.drop (k + 1))

/-- Reads the path, the query and the fragment after the host and port. -/
def pathQueryFragment (special : Bool) (cs : List Char) :
    List String × Option String × Option String :=
  let (path, rest) :=
    if special then
      match cs with
      | c :: more => if c == '/' || c == '\\' then segments true [] more else segments true [] cs
      | [] => segments true [] cs
    else
      match cs with
      | [] => ([], cs)
      | '?' :: _ | '#' :: _ => ([], cs)
      | '/' :: more => segments false [] more
      | _ => segments false [] cs
  let (query, fragment) := queryAndFragment special rest
  (path, query, fragment)

/-- Fails with `e` when `c` holds. -/
def refuseIf (c : Bool) (e : UrlError) : Except UrlError Unit :=
  if c then .error e else .ok ()

/-- Reads the port after a `:`; without one there is none. -/
def portAfter (scheme : String) : List Char → Except UrlError (Option Nat × List Char)
  | ':' :: more => port? scheme more
  | rest => pure (none, rest)

/-- Reads what follows the scheme of a URL that has an authority. -/
def authority (scheme : String) (special : Bool) (cs : List Char) : Except UrlError Url := do
  let (user, pass, rest) ← userinfo special cs
  let (hostText, afterHost) := hostPart special false rest
  refuseIf (special && hostText.isEmpty) .emptyHost
  let host ← (if special then Host.parse else Host.parseGeneric) (String.ofList hostText)
  refuseIf (host == .domain "" && afterHost.head? == some ':') .emptyHost
  let (port, rest) ← portAfter scheme afterHost
  refuseIf (host == .domain "" && !(user.isEmpty && pass.isEmpty)) .emptyHost
  let (path, query, fragment) := pathQueryFragment special rest
  return { scheme, username := user, password := pass, host := some host, port,
           path := .segments path, query, fragment }

/-- Whether two characters name a drive, as `c:` or `c|`. -/
def isDriveLetter (cs : List Char) : Bool :=
  match cs with
  | [a, b] => a.isAlpha && (b == ':' || b == '|')
  | _ => false

/-- The host of a file URL: the empty domain for a drive letter, for no text and for
`localhost`. -/
def fileHost (hostText : List Char) : Except UrlError Host :=
  if isDriveLetter hostText || hostText.isEmpty then pure (.domain "")
  else do
    match ← Host.parse (String.ofList hostText) with
    | .domain "localhost" => pure (.domain "")
    | h => pure h

/-- Reads what follows `file:`. -/
def fileUrl (cs : List Char) : Except UrlError Url := do
  let slash := fun (c : Char) => c == '/' || c == '\\'
  match cs with
  | a :: b :: rest =>
    if slash a && slash b then
      let hostText := rest.takeWhile fun c => !slash c && c != '?' && c != '#'
      let host ← fileHost hostText
      let (path, query, fragment) := pathQueryFragment true (rest.drop hostText.length)
      return { scheme := "file", host := some host, path := .segments path, query, fragment }
    else fileLocal cs
  | _ => fileLocal cs
where
  /-- A file URL without a host. -/
  fileLocal (cs : List Char) : Except UrlError Url :=
    let (path, query, fragment) := pathQueryFragment true cs
    .ok { scheme := "file", host := some (.domain ""), path := .segments path, query, fragment }

/-- Reads a URL. -/
def parse (input : String) : Except UrlError Url := do
  let cs := prepare input
  let some (scheme, rest) := scheme? cs | throw .relativeWithoutBase
  match schemeKind scheme with
  | .special => authority scheme true (rest.dropWhile fun c => c == '/' || c == '\\')
  | .file => fileUrl rest
  | .other =>
    match rest with
    | '/' :: '/' :: more => authority scheme false more
    | '/' :: more =>
      let (path, rest) := segments false [] more
      let (query, fragment) := queryAndFragment false rest
      return { scheme, path := .segments path, query, fragment }
    | _ =>
      let rawPath := rest.takeWhile fun c => c != '?' && c != '#'
      let (query, fragment) := queryAndFragment false (rest.drop rawPath.length)
      return { scheme, path := .flat (encodeWith inControls rawPath), query, fragment }

end BearerSession.Url
