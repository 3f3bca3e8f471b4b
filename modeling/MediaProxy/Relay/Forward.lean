import MediaProxy.Relay.Basic

/-!
# What a relay moves

Datagrams are sent on in the order of their arrival, each once. A datagram to a target where nobody
receives is sent and lost; the host tells the relay so at its next attempt, which fails and closes
it. So the last datagram before the failure is the only one that can be lost among those sent.

A relay reads no more than `largestDatagram` octets of a datagram; what is beyond is cut off.
-/

namespace MediaProxy

/-- The most octets that are read of a datagram. -/
def largestDatagram : Nat := 4096

/-- A datagram that was **sent**, and whether anybody received it. -/
structure Delivery where
  datagram : Bytes
  received : Bool
  deriving DecidableEq, Repr

namespace Relay

def send (datagram : Bytes) (r : Relay) (s : Site) : Option Delivery × Relay × Site :=
  if r.closed then (none, r, s)
  else if r.unheard then (none, shutdown (some Host.refused) r s)
  else
    let received := s.host.reaches r.target
    (some ⟨datagram, received⟩,
      { r with meter := r.meter.record (UInt64.ofNat datagram.length), unheard := !received }, s)

/-- Sends some datagrams on, one after another. -/
def sendAll : List Bytes → Relay → Site → List Delivery × Relay × Site
  | [], r, s => ([], r, s)
  | datagram :: rest, r, s =>
    let (sent, r, s) := send datagram r s
    let (more, r, s) := sendAll rest r s
    (sent.toList ++ more, r, s)

/-- Sends on what is waiting, if the relay has been started. -/
def pump (r : Relay) (s : Site) : List Delivery × Relay × Site :=
  if r.started then sendAll r.waiting { r with waiting := [] } s else ([], r, s)

/-- Starts a relay. Only the first start of an open relay does anything. -/
def start (r : Relay) (s : Site) : List Delivery × Relay × Site :=
  if r.started then ([], r, s) else pump { r with started := true } s

/-- A datagram arrives at the inbound address. One that finds the relay closed is lost. -/
def arrive (datagram : Bytes) (r : Relay) (s : Site) : List Delivery × Relay × Site :=
  if r.closed then ([], r, s)
  else pump { r with waiting := r.waiting ++ [datagram.take largestDatagram] } s

/-- Some datagrams arrive, one after another. -/
def arriveAll : List Bytes → Relay → Site → List Delivery × Relay × Site
  | [], r, s => ([], r, s)
  | datagram :: rest, r, s =>
    let (sent, r, s) := arrive datagram r s
    let (more, r, s) := arriveAll rest r s
    (sent ++ more, r, s)

/-- Registers a tracker with the end of a relay. -/
def observe (t : TrackerId) (r : Relay) (s : Site) : SignalId × Relay × Site :=
  let (signal, latch, observers) := r.latch.observe t s.observers
  (signal, { r with latch := latch }, { s with observers := observers })

end Relay

end MediaProxy
