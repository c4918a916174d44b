import BearerSession.BaseUrl
import BearerSession.Client.Transport

/-!
# HTTP agents

An agent sends requests to the endpoints of one base URL, with its own `User-Agent` text. That
text must be a valid header value, else building the agent fails with the transport error
"builder error".

Sending a request first builds the headers it goes out with (`headerMap`): a map from names in
lower case to one value each, which starts with `content-type` and `accept` both
`application/json`; each header of the request, in order, is checked and then set on the map
under its name in lower case, replacing the value the name had. A name must be one to 65535
token characters of RFC 9110 (ASCII letters, digits and ``!#$%&'*+-.^_`|~``); a value may hold
any octet but the controls, except that a tab is allowed. The first header at fault refuses the
request with "invalid HTTP header name" or "failed to parse header value", before anything goes
on the wire. The endpoint of the target (`BaseUrl.endpoint`) must then read as a URL with a host,
else the request fails with "builder error". A request that passes goes to the network.

A network (`Network`) answers a request sent to a URL. `Network.unreachable` is the network on
which no connection is ever made: every request fails with the connection error that names its
URL.
-/

namespace BearerSession.Http

/-- Whether an octet may stand in a header name. -/
def isTokenOctet (b : UInt8) : Bool :=
  let c := Char.ofNat b.toNat
  c.isAlphanum || "!#$%&'*+-.^_`|~".contains c

/-- Whether a text is a valid header name. -/
def validHeaderName (name : String) : Bool :=
  let octets := name.toUTF8.toList
  !octets.isEmpty && octets.length ≤ 65535 && octets.all isTokenOctet

/-- Whether an octet may stand in a header value: a tab, or no control character. -/
def isValueOctet (b : UInt8) : Bool := b == 9 || (0x20 ≤ b && b != 0x7F)

/-- Whether a text is a valid header value. -/
def validHeaderValue (value : String) : Bool := value.toUTF8.toList.all isValueOctet

/-- The first fault of a header, as the reason a request is refused. -/
def headerFault (name value : String) : Option String :=
  if !validHeaderName name then some "invalid HTTP header name"
  else if !validHeaderValue value then some "failed to parse header value"
  else none

/-- The name a header goes out under: its ASCII letters in lower case. -/
def wireName (name : String) : String := name.map Char.toLower

/-- The media type requests declare and accept unless told otherwise. -/
def jsonType : String := "application/json"

/-- Entries with the value of `name` set: in its place when the name is there, else at the
end. -/
def setEntry (entries : List (String × String)) (name value : String) : List (String × String) :=
  if entries.any (·.1 == name) then entries.map fun e => if e.1 == name then (name, value) else e
  else entries ++ [(name, value)]

/-- Setting a name keeps the names as they were, or adds it at the end. -/
theorem names_setEntry (entries : List (String × String)) (name value : String) :
    (setEntry entries name value).map Prod.fst =
      if entries.any (·.1 == name) then entries.map Prod.fst
      else entries.map Prod.fst ++ [name] := by
  unfold setEntry
  split
  · rw [List.map_map]
    congr 1
    funext e
    by_cases h : e.1 = name <;> simp [h]
  · simp

theorem setEntry_nodup {entries : List (String × String)} (h : (entries.map Prod.fst).Nodup)
    (name value : String) : ((setEntry entries name value).map Prod.fst).Nodup := by
  rw [names_setEntry]
  split
  · exact h
  · next hname =>
    refine List.nodup_append.2 ⟨h, List.nodup_cons.2 ⟨List.not_mem_nil, List.nodup_nil⟩, ?_⟩
    intro a ha b hb
    rw [List.mem_singleton] at hb
    subst hb
    rintro rfl
    obtain ⟨e, he, rfl⟩ := List.mem_map.1 ha
    exact hname (List.any_eq_true.2 ⟨e, he, by simp⟩)

/-- The headers a request goes out with: each name once, with its value. -/
structure HeaderMap where
  entries : List (String × String)
  names_nodup : (entries.map Prod.fst).Nodup

namespace HeaderMap

theorem defaults_nodup : ([("content-type", jsonType), ("accept", jsonType)].map Prod.fst).Nodup := by
  simp

/-- The headers every request starts with. -/
def defaults : HeaderMap := ⟨[("content-type", jsonType), ("accept", jsonType)], defaults_nodup⟩

/-- Sets the value of a name. -/
def insert (m : HeaderMap) (name value : String) : HeaderMap :=
  ⟨setEntry m.entries name value, setEntry_nodup m.names_nodup name value⟩

/-- The value of a name. -/
def get? (m : HeaderMap) (name : String) : Option String :=
  (m.entries.find? (·.1 == name)).map (·.2)

/-- Checks one header of a request and sets it on the map under its name in lower case. -/
def add (m : HeaderMap) (header : String × String) : Except Failure HeaderMap :=
  match headerFault header.1 header.2 with
  | some reason => .error (.invalidInput (.header header.1 reason))
  | none => .ok (m.insert (wireName header.1) header.2)

end HeaderMap

/-- The headers a request with `headers` goes out with: the defaults, then each header in order
set on them, the first at fault refusing the request. -/
def headerMap (headers : List (String × String)) : Except Failure HeaderMap :=
  headers.foldlM HeaderMap.add HeaderMap.defaults

/-- A network: the reply to a request sent to a URL. -/
abbrev Network := Url → Request → Client.Reply

/-- The failure of a request for a URL on which no connection could be made. -/
def connectionFailure (url : Url) : Failure :=
  .transport (.connection ("error sending request for url (" ++ url.text ++ ")"))

/-- The network on which every connection fails. -/
def Network.unreachable : Network := fun url _ => .error (connectionFailure url)

/-- The failure of a request or agent that could not be put together. -/
def builderFailure : Failure := .transport (.http "builder error")

/-- An agent: the base URL it sends to and the `User-Agent` it sends. -/
structure Agent where
  base : BaseUrl
  userAgent : String

namespace Agent

/-- The `User-Agent` an agent sends unless it is given another. -/
def defaultUserAgent : String := "authwave/0.1.0"

/-- Builds an agent; the `User-Agent` text must be a valid header value. -/
def build (base : BaseUrl) (userAgent : String) : Except Failure Agent :=
  if validHeaderValue userAgent then .ok ⟨base, userAgent⟩ else .error builderFailure

/-- The URL a request goes to, if its endpoint reads as a URL with a host. -/
def url? (a : Agent) (q : Request) : Option Url :=
  match Url.parse (a.base.endpoint q.target) with
  | .ok url => if url.hostText?.isSome then some url else none
  | .error _ => none

/-- Sends a request over a network. -/
def send (a : Agent) (net : Network) (q : Request) : Client.Reply := do
  let _ ← headerMap q.headers
  match a.url? q with
  | some url => net url q
  | none => .error builderFailure

end Agent

/-- An agent on a network. -/
structure Link where
  agent : Agent
  network : Network

/-- The transport of an agent on a network: every reply is there at once, so nothing is ever
in flight. -/
def Link.transport : Client.Transport Link Empty where
  send q l := (l, .ready (l.agent.send l.network q))
  poll flight _ := nomatch flight

end BearerSession.Http
