import MediaProxy.Net.HostPort
import MediaProxy.Proxy.Backend
import MediaProxy.Registry.Stop
import MediaProxy.Relay.Forward
import MediaProxy.Relay.Pair

/-!
# Sessions of the proxy

A session of the proxy is a client, a backend, and two relays that carry the backend's media to the
client. Its one worker is the backend: when the backend is over the session ends.

The end of a session is the same however it comes about. The backend is asked to stop and awaited;
then the relays are closed, then the end is announced, and last the session is taken out of the
registry. What is done to sessions is written down by whatever does it, with what is so at that
moment (`Event`).
-/

namespace MediaProxy

/-- A **session** of the proxy. -/
structure Session where
  client : ClientKey
  /-- The client's port for media. -/
  port : UInt16
  /-- The name of the media. -/
  media : Text
  /-- The URL of the media. -/
  url : Text
  backend : WorkerId
  relays : Relay.Pair
  deriving DecidableEq, Repr

/-- What **happens** to sessions. -/
inductive Event where
  /-- Two relays have been started, the first of which receives on a port. -/
  | launched (port : UInt16)
  /-- A backend is about to be opened. -/
  | connecting (port : UInt16) (url : Text) (log : Option Text)
  /-- There is no backend, and the relays for it have been closed. -/
  | givenUp (port : UInt16)
  /-- A session that is to start is under its key. -/
  | registered (session : SessionId)
  /-- The start of a session is announced. -/
  | started (session : SessionId)
  /-- A backend is asked to stop; `done` is whether it is over already. -/
  | halting (backend : WorkerId) (done : Bool)
  /-- The relays of a session have been closed; `finished` is whether its backend is over. -/
  | silenced (session : SessionId) (finished : Bool)
  /-- The end of a session is announced; `finished` is whether its backend is over, `silent` whether
  its relays are closed, `kept` whether it is under its key. -/
  | ended (session : SessionId) (finished silent kept : Bool)
  /-- A session has been taken from under its key. -/
  | removed (session : SessionId)
  deriving DecidableEq, Repr

/-- The **floor**: what the sessions of a proxy share and its registry does not hold. That is the
host that the sockets of the relays are bound on, the connector with the backends it has opened, the
sessions themselves, which the registry knows by number, and what hooks and backends have been told.
-/
structure Floor (β : Type) where
  site : Site
  backends : β
  /-- Every session that was ever registered. -/
  sessions : List Session
  journal : List Event

namespace Floor

variable {β : Type}

def note (f : Floor β) (e : Event) : Floor β := { f with journal := f.journal ++ [e] }

/-- Asks a backend to stop. -/
def halt [Backend β] (w : WorkerId) (done : Bool) (f : Floor β) : Floor β :=
  { f.note (.halting w done) with backends := Backend.halt w f.backends }

def setSession (f : Floor β) (n : SessionId) (s : Session) : Floor β :=
  { f with sessions := f.sessions.set n s }

end Floor

def Relay.Pair.close (p : Relay.Pair) (s : Site) : Relay.Pair × Site :=
  let (rtp, s) := p.rtp.close s
  let (rtcp, s) := p.rtcp.close s
  (⟨rtp, rtcp⟩, s)

def Relay.Pair.start (p : Relay.Pair) (s : Site) : Relay.Pair × Site :=
  let (_, rtp, s) := p.rtp.start s
  let (_, rtcp, s) := p.rtcp.start s
  (⟨rtp, rtcp⟩, s)

namespace Floor

variable {β : Type}

/-- Starts two relays that have been allocated, which has led to a site. -/
def launch (relays : Relay.Pair) (site : Site) (f : Floor β) : Relay.Pair × Floor β :=
  let (relays, site) := relays.start site
  (relays, { f with site := site }.note (.launched relays.rtp.inbound.port))

/-- Closes two relays that there is no backend for. -/
def giveUp (relays : Relay.Pair) (f : Floor β) : Floor β :=
  let (_, site) := relays.close f.site
  { f with site := site }.note (.givenUp relays.rtp.inbound.port)

end Floor

/-- The **registry** of the proxy's sessions. -/
abbrev Sessions (β : Type) : Type := Registry ClientKey (Floor β)

namespace Session

variable {β : Type}

/-- Announces the start of a session, and before that its registration, if it is under its key. -/
def announce (n : SessionId) (r : Sessions β) : Floor β :=
  let registered := (r.world.sessions[n]?).any fun s => r.lookup s.client = some n
  let world := if registered then r.world.note (.registered n) else r.world
  world.note (.started n)

/-- Closes the relays of a session, whose backend is over or not. -/
def silence (n : SessionId) (s : Session) (finished : Bool) (f : Floor β) : Floor β :=
  let (relays, site) := s.relays.close f.site
  ({ f with site := site }.setSession n { s with relays := relays }).note (.silenced n finished)

/-- What somebody who is told of the end of a session sees of it. -/
def farewell (n : SessionId) (r : Sessions β) : Event :=
  match r.world.sessions[n]? with
  | none => .ended n false false false
  | some s =>
    .ended n (r.isFinished s.backend) (s.relays.rtp.closed && s.relays.rtcp.closed)
      (r.lookup s.client = some n)

/-- Takes a session from under its key, if it is there. -/
def leave (n : SessionId) (client : ClientKey) (r : Sessions β) : Sessions β :=
  let (was, r) := r.forget client n
  if was then { r with world := r.world.note (.removed n) } else r

def cleanup [Backend β] (n : SessionId) (r : Sessions β) : Body × Sessions β :=
  match r.world.sessions[n]? with
  | none => (.returns none, r)
  | some s =>
    let done := r.isFinished s.backend
    let r := { r with world := s.silence n done (r.world.halt s.backend done) }
    let r := { r with world := r.world.note (farewell n r) }
    (.returns none, leave n s.client r)

/-- What the sessions of the proxy undertake. -/
def contract [Backend β] : Contract ClientKey (Floor β) where
  name := ClientKey.text
  workers world n := ((world.sessions[n]?).map fun s => [s.backend]).getD []
  start := announce
  halt w done world := (true, world.halt w done)
  cleanup := cleanup

end Session

end MediaProxy
