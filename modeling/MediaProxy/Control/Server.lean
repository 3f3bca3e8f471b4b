import MediaProxy.Amp.Packet
import MediaProxy.Net.Host
import MediaProxy.Net.Resolve
import MediaProxy.Relay.Forward

/-!
# The control server

Control requests come in datagrams, one request each. The server reads no more of a datagram than a
relay does, takes what it has read for a request, and hands it to the handler of the request's code.
A datagram that holds no request, or one of a code without a handler, is passed over in silence.

A handler answers or does not. To an answer the server adds the number that the request carries, and
that is its reply. The reply goes back to the sender if one datagram can carry it.

What a handler does is no matter of the server: handlers are values of some type `H`, and whoever
serves (`receive`) says what each of them does to its own state.
-/

namespace MediaProxy.Control

/-- **Handlers** by the code of the requests that they serve. -/
abbrev Handlers (H : Type) := List (Amp.Code × H)

/-- A **control server** at an address. -/
structure Server (H : Type) where
  address : SocketAddress
  handlers : Handlers H
  running : Bool

/-- What became of one datagram: the **request** that a handler got, and the **reply** to it. -/
structure Exchange where
  request : Option Amp.Packet
  reply : Option Amp.Packet
  deriving DecidableEq, Repr

/-- The most octets that one datagram carries. -/
def datagramCapacity : Nat := 65507

/-- A reply with the number of the request that it answers. -/
def numbered (request reply : Amp.Packet) : Amp.Packet :=
  match request.seq? with
  | some seq => reply.add "Seq".toList seq
  | none => reply

namespace Exchange

/-- A datagram that nobody took notice of. -/
def nothing : Exchange := ⟨none, none⟩

/-- The text that goes back to the sender: that of the reply, if one datagram can carry it. -/
def sent (e : Exchange) : Option Text :=
  (e.reply.map Amp.Packet.render).filter fun text => text.toBytes.length ≤ datagramCapacity

end Exchange

namespace Server

variable {H : Type}

/-- A server bound to an address. An address that does not resolve is an error of the host here. -/
def bind (address : Text) (h : Host) : Except Fault (Server H × Host) :=
  match lookup address with
  | .error reason => .error (.io reason.message)
  | .ok a => do
    let (a, h) ← h.bind a
    return (⟨a, [], false⟩, h)

def handler? (s : Server H) (code : Amp.Code) : Option H := s.handlers.lookup code

/-- Adds handlers, all of them or, if any of their codes is served already, none. -/
def addHandlers (new : Handlers H) (s : Server H) : Except Fault (Server H) :=
  match new.find? fun (code, _) => (s.handler? code).isSome with
  | some (code, _) => .error (.handlerExists code.token)
  | none => .ok { s with handlers := s.handlers ++ new }

def start (s : Server H) : Except Fault (Server H) :=
  if s.running then .error .alreadyRunning else .ok { s with running := true }

def stop (s : Server H) : Server H := { s with running := false }

/-- The request that a datagram makes of a server, with its handler. -/
def dispatch (s : Server H) (datagram : Bytes) : Option (H × Amp.Packet) :=
  match Amp.Packet.parse (datagram.take largestDatagram) with
  | .error _ => none
  | .ok request => (s.handler? request.code).map fun handler => (handler, request)

/-- **Serves one datagram**; `act` is what a handler does with a request. -/
def receive {σ : Type} (act : H → Amp.Packet → σ → Option Amp.Packet × σ) (datagram : Bytes)
    (s : Server H) (state : σ) : Exchange × σ :=
  if !s.running then (.nothing, state)
  else
    match s.dispatch datagram with
    | none => (.nothing, state)
    | some (handler, request) =>
      let (reply, state) := act handler request state
      (⟨some request, reply.map (numbered request)⟩, state)

end Server

end MediaProxy.Control
