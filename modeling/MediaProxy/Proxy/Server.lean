import MediaProxy.Control.Load
import MediaProxy.Proxy.Basic
import MediaProxy.Proxy.MediaServer

/-!
# The proxy behind its control socket

A proxy and the control server that takes its requests. The two codes that the proxy answers have
handlers from the beginning; a counter of synthetic load can be added, once.

Shutting down stops the control server first, so that no request comes in between; then all sessions
are stopped, and the counter of load is stopped with them.
-/

namespace MediaProxy

/-- What serves a **request**. -/
inductive Service where
  /-- The proxy. -/
  | sessions
  /-- The counter of load. -/
  | load
  deriving DecidableEq, Repr

/-- A **proxy server**. -/
structure ProxyServer (β : Type) where
  control : Control.Server Service
  proxy : Proxy β
  load : Option Control.LoadCount

namespace ProxyServer

variable {β : Type} [Backend β]

def sessionHandlers : Control.Handlers Service := [(.startSession, .sessions), (.stopSession, .sessions)]

/-- A proxy server that does not serve yet. The settings are checked before the socket is bound. -/
def create (settings : Settings) (host : Host) (backends : β) : Except Fault (ProxyServer β) := do
  let basis ← Basis.ofSettings settings
  let (control, host) ← Control.Server.bind settings.listen host
  let control ← control.addHandlers sessionHandlers
  return ⟨control, .idle basis host backends, none⟩

def start (s : ProxyServer β) : Except Fault (ProxyServer β) := do
  return { s with control := ← s.control.start }

def countLoad (s : ProxyServer β) : Except Fault (ProxyServer β) := do
  return { s with control := ← s.control.addHandlers (Control.loadHandlers .load), load := some .start }

/-- What a service does with a request. -/
def serve (service : Service) (packet : Amp.Packet) (s : Proxy β × Option Control.LoadCount) :
    Option Amp.Packet × Proxy β × Option Control.LoadCount :=
  match service with
  | .sessions =>
    let (reply, p) := s.1.handle packet
    (reply, p, s.2)
  | .load => (none, s.1, s.2.map fun l => l.handle packet)

/-- **Takes one datagram.** -/
def receive (datagram : Bytes) (s : ProxyServer β) : Control.Exchange × ProxyServer β :=
  let (exchange, p, load) := s.control.receive serve datagram (s.proxy, s.load)
  (exchange, { s with proxy := p, load := load })

/-- **Shuts down.** -/
def stop (s : ProxyServer β) : ProxyServer β :=
  { control := s.control.stop
    proxy := s.proxy.stopAll.2
    load := s.load.map Control.LoadCount.stop }

/-- Lets the media server go, and sees the sessions end that end by it. -/
def releaseMedia (s : ProxyServer MediaServer) : ProxyServer MediaServer :=
  let floor := s.proxy.registry.world
  let backends := floor.backends.release
  let p := s.proxy.withFloor { floor with backends := backends }
  { s with proxy := backends.finished.foldl (fun p w => (p.finishBackend w).2) p }

end ProxyServer

end MediaProxy
