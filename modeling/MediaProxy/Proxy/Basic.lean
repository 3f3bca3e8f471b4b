import MediaProxy.Amp.Request
import MediaProxy.Proxy.Basis
import MediaProxy.Proxy.Session

/-!
# The proxy

The proxy answers requests for media. To start a session it allocates two relays that send to the
client's port and its successor, opens a backend that delivers to the first relay, and registers the
two together under the client's identity. A start that fails leaves nothing behind: what it had
allocated is given up again.

A start is refused for the first of these reasons that applies: the client has a session; its port
has no successor; the media name is no path; no relays can be had; the backend is not to be had.

A session ends when a client asks for it, when the backend ends, and when the proxy shuts down.
-/

namespace MediaProxy

/-- A **proxy**: its checked settings and its sessions. -/
structure Proxy (β : Type) where
  basis : Basis
  registry : Sessions β

namespace Proxy

variable {β : Type} [Backend β]

def idle (basis : Basis) (host : Host) (backends : β) : Proxy β :=
  ⟨basis, .empty ⟨⟨host, .empty⟩, backends, [], []⟩⟩

/-- The proxy in another world. -/
def withFloor (p : Proxy β) (f : Floor β) : Proxy β :=
  { p with registry := { p.registry with world := f } }

/-- The session of a client, with its number. -/
def session? (p : Proxy β) (client : ClientKey) : Option (SessionId × Session) :=
  (p.registry.lookup client).bind fun n => (p.registry.world.sessions[n]?).map fun s => (n, s)

def clients (p : Proxy β) : List ClientKey := p.registry.keys

def sessionCount (p : Proxy β) : Nat := p.registry.size

/-! ## Starting -/

/-- What a start needs before it touches a socket: the text of the second relay's target, and the
URL of the media. -/
def prepare (b : Basis) (r : Amp.StartRequest) : Except Fault (Text × Url) := do
  if r.port = 65535 then
    throw (.illegalValue Amp.Code.startSession.token
      ("port ".toList ++ Text.ofNat r.port.toNat ++ " has no RTCP successor".toList))
  let url ← b.url.media r.media
  return (joinHostPort r.host (r.port + 1), url)

/-- Registers a session with a backend that has just been opened. -/
def enroll (p : Proxy β) (s : Session) (finished : Bool) : Except Fault Unit × Proxy β :=
  let (backend, registry) := p.registry.hire (if finished then .finished else .fresh)
  let n := registry.world.sessions.length
  let s := { s with backend := backend }
  let registry := { registry with world := { registry.world with sessions := registry.world.sessions ++ [s] } }
  match registry.register Session.contract s.client n with
  | .ok registry => (.ok (), { p with registry := Registry.settle Session.contract registry })
  | .error fault =>
    (.error fault, p.withFloor (s.silence n finished (registry.world.halt backend finished)))

/-- Opens the backend of two relays that have been started, and gives the relays up if there is none
to be had. -/
def engage (p : Proxy β) (r : Amp.StartRequest) (url : Url) (relays : Relay.Pair) :
    Except Fault Unit × Proxy β :=
  let port := relays.rtp.inbound.port
  let log := p.basis.logPath port r.media
  let floor := p.registry.world.note (.connecting port url.render log)
  match Backend.connect url port log floor.backends with
  | (.error cause, backends) =>
    (.error (.backendRefused cause), p.withFloor (Floor.giveUp relays { floor with backends := backends }))
  | (.ok finished, backends) =>
    enroll (p.withFloor { floor with backends := backends })
      ⟨.of r.host r.port, r.port, r.media, url.render, 0, relays⟩ finished

/-- **Starts a session.** -/
def start (r : Amp.StartRequest) (p : Proxy β) : Except Fault Unit × Proxy β :=
  let client := ClientKey.of r.host r.port
  if (p.registry.lookup client).isSome then (.error (.sessionExists client.text), p)
  else
    match prepare p.basis r with
    | .error fault => (.error fault, p)
    | .ok (second, url) =>
      let floor := p.registry.world
      match Relay.search p.basis.relayHost client.text second p.basis.lowest p.basis.highest
          floor.site with
      | (.error fault, site) => (.error fault, p.withFloor { floor with site := site })
      | (.ok relays, site) =>
        let (relays, floor) := floor.launch relays site
        engage (p.withFloor floor) r url relays

/-! ## Ending -/

/-- What a stop of a session comes to. -/
def stopResult : Registry.StopReply → Except Fault Unit
  | .stopped => .ok ()
  | .failed fault => .error fault
  | .brokeDown message => .error (.cleanup message)

/-- **Stops a session.** A backend is over once it has been asked to stop, so a stop always returns;
the case in which it would not leaves the proxy as it is. -/
def stop (r : Amp.StopRequest) (p : Proxy β) : Except Fault Unit × Proxy β :=
  let client := ClientKey.of r.host r.port
  match Registry.stopOne Session.contract client p.registry with
  | some (reply, registry) =>
    (stopResult reply, { p with registry := Registry.settle Session.contract registry })
  | none => (.error (.sessionUnknown client.text), p)

/-- Stops all sessions. The answer is how many there were. -/
def stopAll (p : Proxy β) : Nat × Proxy β :=
  match Registry.stopAll Session.contract p.registry with
  | some (.ok n, registry) => (n, { p with registry := Registry.settle Session.contract registry })
  | _ => (0, p)

/-- The backend of a number is over. The answer is whether that was news. -/
def finishBackend (w : WorkerId) (p : Proxy β) : Bool × Proxy β :=
  let (news, registry) := p.registry.finish w
  (news, { p with registry := Registry.settle Session.contract registry })

/-- The backend of a client's session is over, if the client has one. -/
def finishSession (client : ClientKey) (p : Proxy β) : Option (Bool × Proxy β) :=
  (p.session? client).map fun (_, s) => p.finishBackend s.backend

/-! ## Media -/

/-- A datagram arrives at one of the relays of a session, `control` saying which. -/
def arriveAt (n : SessionId) (control : Bool) (datagram : Bytes) (p : Proxy β) :
    List Delivery × Proxy β :=
  match p.registry.world.sessions[n]? with
  | none => ([], p)
  | some s =>
    let floor := p.registry.world
    let (sent, relay, site) := (s.relays.side control).arrive datagram floor.site
    (sent, p.withFloor
      ({ floor with site := site }.setSession n { s with relays := s.relays.setSide control relay }))

/-- The relay that a datagram to an address reaches, if it is one of the proxy's own: its session,
which of the two it is, and where it sends in turn. -/
def relayAt? (p : Proxy β) (a : SocketAddress) : Option (SessionId × Bool × SocketAddress) :=
  (List.range p.registry.world.sessions.length).findSome? fun n =>
    (p.registry.world.sessions[n]?).bind fun s =>
      if s.relays.rtp.receivesAt a then some (n, false, s.relays.rtp.target)
      else if s.relays.rtcp.receivesAt a then some (n, true, s.relays.rtcp.target)
      else none

/-- What a relay has sent to a target arrives there, if the target is a relay of the proxy itself,
and so on from there. A datagram that goes round in a circle is let go after a number of relays. -/
def passOn : Nat → SocketAddress → List Delivery → Proxy β → Proxy β
  | 0, _, _, p => p
  | relays + 1, target, sent, p =>
    (sent.filter Delivery.received).foldl (fun p delivery =>
      match p.relayAt? target with
      | none => p
      | some (n, control, next) =>
        let (sent, p) := p.arriveAt n control delivery.datagram
        p.passOn relays next sent) p

/-- A datagram arrives at one of the relays of a client's session. The answer is what that relay has
sent. -/
def media (client : ClientKey) (control : Bool) (datagram : Bytes) (p : Proxy β) :
    Option (List Delivery × Proxy β) :=
  (p.session? client).map fun (n, s) =>
    let (sent, p) := p.arriveAt n control datagram
    (sent, p.passOn (2 * p.registry.world.sessions.length) (s.relays.side control).target sent)

/-- Some other program binds an address of the host, or fails to. The answer is the address as it is
bound. -/
def seize (address : SocketAddress) (p : Proxy β) : Except Fault (SocketAddress × Proxy β) := do
  let floor := p.registry.world
  let (bound, host) ← floor.site.host.bind address
  return (bound, p.withFloor { floor with site := { floor.site with host := host } })

/-- Some other program binds an address of the host, whatever it is bound as. -/
def occupy (address : SocketAddress) (p : Proxy β) : Except Fault (Proxy β) :=
  (p.seize address).map Prod.snd

/-- Some other program gives an address of the host up. -/
def vacate (address : SocketAddress) (p : Proxy β) : Proxy β :=
  let floor := p.registry.world
  p.withFloor { floor with site := { floor.site with host := floor.site.host.release address } }

/-- A datagram arrives at one of the relays of a client's session while some other program receives
at the relay's target. The answer is what that program receives. It is the host's refusal, with the
target, where the program cannot bind it. -/
def mediaHeard (client : ClientKey) (control : Bool) (datagram : Bytes) (p : Proxy β) :
    Except (SocketAddress × Fault) (Option (List Bytes × Proxy β)) :=
  match p.session? client with
  | none => .ok none
  | some (_, s) =>
    let target := (s.relays.side control).target
    match p.seize target with
    | .error fault => .error (target, fault)
    | .ok (address, listened) =>
      .ok ((listened.media client control datagram).map fun (sent, q) =>
        ((sent.filter Delivery.received).map Delivery.datagram, q.vacate address))

/-! ## Journal -/

/-- What has happened since a number of events. -/
def happenedSince (p : Proxy β) (count : Nat) : List Event := p.registry.world.journal.drop count

def eventCount (p : Proxy β) : Nat := p.registry.world.journal.length

/-- The port and the URL that the backend of a session was opened for. -/
def errand? (p : Proxy β) (n : SessionId) : Option (UInt16 × Text) :=
  (p.registry.world.sessions[n]?).map fun s => (s.relays.rtp.inbound.port, s.url)

/-- The session of a backend. -/
def sessionOf? (p : Proxy β) (w : WorkerId) : Option SessionId :=
  p.registry.world.sessions.findIdx? fun s => s.backend = w

/-! ## Requests -/

/-- The reply to a request whose headers say nothing. -/
def illegal (packet : Amp.Packet) : Amp.Packet :=
  .failure (Fault.illegalValue packet.code.token packet.describe).message

/-- **Acts on one request.** Requests of any but the two codes are not answered. -/
def handle (packet : Amp.Packet) (p : Proxy β) : Option Amp.Packet × Proxy β :=
  match packet.code with
  | .startSession =>
    match Amp.StartRequest.ofPacket? packet with
    | some request =>
      let (result, p) := p.start request
      (some (.replyTo result), p)
    | none => (some (illegal packet), p)
  | .stopSession =>
    match Amp.StopRequest.ofPacket? packet with
    | some request =>
      let (result, p) := p.stop request
      (some (.replyTo result), p)
    | none => (some (illegal packet), p)
  | _ => (none, p)

end Proxy

end MediaProxy
