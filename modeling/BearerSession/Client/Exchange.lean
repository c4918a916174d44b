import BearerSession.Client.Renewal

/-!
# Sending a request

`Client.start` sends a request through the client and `Exchange.poll` carries it on. With
renewal on, the stored access token, if any, goes with the request as its bearer; with
renewal off the store is not read and the request goes as it is.

When the reply is a 401 to a first attempt and renewal is on, the client obtains a fresh token
(`Client.ensureFresh`, with the token it sent as the refused one) and sends the request once
more, marked as a replay and with the fresh bearer. A failed renewal is the answer. Any other
reply is the answer as it is: a response in 2xx, or the rejection it carries
(`Http.Response.intoResult`). A replay is never renewed again.
-/

namespace BearerSession.Client

variable {ν φ : Type}

/-- A request as the client sends it: whether it may renew, and the token it carried. -/
structure Sending where
  request : Http.Request
  renews : Bool
  token : Option AccessToken

/-- How far a request has come. -/
inductive Stage (φ : Type) where
  /-- The first attempt is in flight. -/
  | first (flight : φ)
  /-- The first attempt was refused; a fresh token is being obtained. -/
  | renewing (r : Renewal φ)
  /-- The replay is in flight. -/
  | replay (flight : φ)

/-- A request under way. -/
structure Exchange (φ : Type) where
  sending : Sending
  stage : Stage φ

/-- Sends the replay with the fresh token. -/
def replay (tr : Transport ν φ) (s : Sending) (fresh : AccessToken) (c : Client ν) :
    Client ν × Poll (Exchange φ) Reply :=
  let (net, p) := tr.send (s.request.retried.withBearer fresh) c.net
  let c := { c with net }
  match p with
  | .pending f => (c, .pending ⟨s, .replay f⟩)
  | .ready reply => (c, .ready (reply.bind Http.Response.intoResult))

/-- Carries on after a step of renewal. -/
def renewed (tr : Transport ν φ) (s : Sending) :
    Client ν × Poll (Renewal φ) Renewed → Client ν × Poll (Exchange φ) Reply
  | (c, .pending r) => (c, .pending ⟨s, .renewing r⟩)
  | (c, .ready (.error e)) => (c, .ready (.error e))
  | (c, .ready (.ok fresh)) => replay tr s fresh c

/-- Whether a reply to the first attempt calls for a renewal. -/
def Sending.renewable (s : Sending) (r : Http.Response) : Bool :=
  s.renews && s.request.attempt == .fresh && r.isUnauthorized

/-- Carries on after the reply to the first attempt. -/
def answered (tr : Transport ν φ) (s : Sending) (reply : Reply) (c : Client ν) :
    Client ν × Poll (Exchange φ) Reply :=
  match reply with
  | .error e => (c, .ready (.error e))
  | .ok r =>
    if s.renewable r then renewed tr s (ensureFresh tr s.token c)
    else (c, .ready r.intoResult)

/-- Sends a request; `renews` says whether the stored token goes with it and a 401 renews it. -/
def start (tr : Transport ν φ) (request : Http.Request) (renews : Bool) (c : Client ν) :
    Client ν × Poll (Exchange φ) Reply :=
  let token : Except Failure (Option AccessToken) :=
    if renews then c.store.accessToken else .ok none
  match token with
  | .error e => (c, .ready (.error e))
  | .ok token =>
    let s : Sending := ⟨request, renews, token⟩
    let sent := match token with
      | some t => request.withBearer t
      | none => request
    let (net, p) := tr.send sent c.net
    let c := { c with net }
    match p with
    | .pending f => (c, .pending ⟨s, .first f⟩)
    | .ready reply => answered tr s reply c

namespace Exchange

/-- Polls a request under way. -/
def poll (tr : Transport ν φ) (ex : Exchange φ) (c : Client ν) :
    Client ν × Poll (Exchange φ) Reply :=
  match ex.stage with
  | .first f =>
    let (net, p) := tr.poll f c.net
    let c := { c with net }
    match p with
    | .pending f' => (c, .pending ⟨ex.sending, .first f'⟩)
    | .ready reply => answered tr ex.sending reply c
  | .renewing r => renewed tr ex.sending (r.poll tr c)
  | .replay f =>
    let (net, p) := tr.poll f c.net
    let c := { c with net }
    match p with
    | .pending f' => (c, .pending ⟨ex.sending, .replay f'⟩)
    | .ready reply => (c, .ready (reply.bind Http.Response.intoResult))

/-- Leaves a request under way; a leader of a wave abandons it. -/
def drop (ex : Exchange φ) (c : Client ν) : Client ν :=
  match ex.stage with
  | .renewing r => r.drop c
  | _ => c

end Exchange

end BearerSession.Client
