import MediaProxy.Completion.Latch
import MediaProxy.Meter
import MediaProxy.Net.Host
import MediaProxy.Net.Resolve

/-!
# Relays

A **relay** receives datagrams at an address of the host and sends each of them on to one target.
It is open from the moment it is made, moves datagrams from the moment it is started, and is closed
once: by a caller, or by an error in sending, which it keeps. Closing gives up both of its sockets,
stops its meter and completes its latch.

A relay acts on a `Site`: the host whose sockets it holds, and the observers that its latch tells.
-/

namespace MediaProxy

/-- Where relays work: the **sockets** of the host, and the observers of relays. -/
structure Site where
  host : Host
  observers : Observers
  deriving DecidableEq, Repr

/-- A **one-way relay** of datagrams. -/
structure Relay where
  /-- Where it receives. -/
  inbound : SocketAddress
  /-- Where it sends. -/
  target : SocketAddress
  started : Bool
  closed : Bool
  /-- The error that closed it. -/
  error : Option Text
  /-- The octets it has sent. -/
  meter : Meter
  latch : Latch
  /-- Whether the host has yet to report that the last datagram reached nobody. -/
  unheard : Bool
  /-- What has arrived and has not been sent. -/
  waiting : List Bytes
  deriving DecidableEq, Repr

namespace Relay

/-- A relay that has just been made. -/
def made (inbound target : SocketAddress) : Relay :=
  ⟨inbound, target, false, false, none, .named ("UDP relay ".toList ++ inbound.render), .fresh, false, []⟩

/-- Whether a datagram to an address reaches a relay. -/
def receivesAt (r : Relay) (a : SocketAddress) : Bool :=
  !r.closed && r.inbound.port = a.port && r.inbound.ip.covers a.ip.destination

def label (r : Relay) : Text := r.inbound.render ++ " -> ".toList ++ r.target.render

/-- A relay for a developer to read. -/
def debugText (r : Relay) : Text :=
  "UdpRelay \x7b inbound: ".toList ++ r.inbound.render ++ ", target: ".toList ++ r.target.render
    ++ ", closed: ".toList ++ (if r.closed then "true" else "false").toList ++ " \x7d".toList

/-- Tries to make a relay between two addresses. Both are resolved before any socket is asked for,
and an inbound socket is given up again when the target cannot be connected to. -/
def tryOpen (inbound target : Text) (s : Site) : Except Fault Relay × Site :=
  match resolve inbound with
  | .error fault => (.error fault, s)
  | .ok inbound =>
    match resolve target with
    | .error fault => (.error fault, s)
    | .ok target =>
      match s.host.bind inbound with
      | .error fault => (.error fault, s)
      | .ok (inbound, host) =>
        match host.connect target with
        | .error fault => (.error fault, { s with host := host.release inbound })
        | .ok host => (.ok (made inbound target), { s with host := host })

/-- What an attempt has made and the site with it, or only the fault if the attempt failed. -/
def outcome {α : Type} : Except Fault α × Site → Except Fault (α × Site)
  | (.ok a, s) => .ok (a, s)
  | (.error fault, _) => .error fault

/-- Makes a relay between two addresses. -/
def openBetween (inbound target : Text) (s : Site) : Except Fault (Relay × Site) :=
  outcome (tryOpen inbound target s)

/-- Closes a relay, for a reason or for none. A relay that is closed stays as it is. -/
def shutdown (error : Option Text) (r : Relay) (s : Site) : Relay × Site :=
  if r.closed then (r, s)
  else
    let (_, latch, observers) := r.latch.finish s.observers
    ({ r with closed := true, error := error, meter := r.meter.stop, latch := latch, waiting := [] },
      ⟨(s.host.release r.inbound).disconnect r.target, observers⟩)

/-- Closes a relay at a caller's wish. -/
def close (r : Relay) (s : Site) : Relay × Site := shutdown none r s

end Relay

end MediaProxy
