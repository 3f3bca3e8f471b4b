import MediaProxy.Fault
import MediaProxy.Net.Address

/-!
# The sockets of a host

What datagram sockets a host has given out. A socket is either **bound** to an address of the host,
where it receives, or it is an **outbound** one: connected to a target and bound to no address that
anybody else could want.

An address of the host can be bound once. Two addresses collide when their ports are equal and their
IP addresses are, or when one of them is the wildcard of the other's kind; the IPv6 wildcard holds
IPv4 as well, and an IPv6 address that stands for an IPv4 one counts as that. Port zero asks for any
port that is free. The addresses of the host have no zone: one that is asked for is forgotten.

Which addresses are its own besides loopback and the wildcards, and how low a port may be, is up to
the host (`Allowance`) and does not change.

Sending to a loopback address where no socket is bound loses the datagram, and the host reports that
to the sender when it sends the next time. That report is kept by the sender (`Relay`).
-/

namespace MediaProxy

namespace IpAddress

/-- An address, the IPv4 one in place of the IPv6 address that stands for it. -/
def plain : IpAddress → IpAddress
  | .v6 [0, 0, 0, 0, 0, 0xFFFF, x, y] =>
    .v4 (x >>> 8).toUInt8 x.toUInt8 (y >>> 8).toUInt8 y.toUInt8
  | ip => ip

/-- Whether one address takes in another: it is the same, or the wildcard of its kind. -/
def covers (a b : IpAddress) : Bool :=
  a.plain = b.plain || (a.plain.isWildcard && (b.plain.isV4 || !a.plain.isV4))

/-- Whether an address is one of every host: loopback or wildcard. -/
def isLocal (a : IpAddress) : Bool :=
  match a.plain with
  | .v4 127 _ _ _ => true
  | .v6 [0, 0, 0, 0, 0, 0, 0, 1] => true
  | ip => ip.isWildcard

/-- The address that no socket may be connected to. -/
def broadcast : IpAddress := .v4 255 255 255 255

/-- Where a datagram to an address goes: one to a wildcard goes to the loopback of its kind. -/
def destination (a : IpAddress) : IpAddress :=
  if a.plain.isWildcard then
    if a.plain.isV4 then .v4 127 0 0 1 else .v6 [0, 0, 0, 0, 0, 0, 0, 1]
  else a

end IpAddress

namespace SocketAddress

/-- Whether two socket addresses cannot both be bound. -/
def collides (a b : SocketAddress) : Bool :=
  a.port = b.port && (a.ip.covers b.ip || b.ip.covers a.ip)

end SocketAddress

/-- The lowest port that a host hands out by itself. -/
def lowestOwnPort : Nat := 32768

/-- What a host **lets** its programs bind. -/
structure Allowance where
  /-- The addresses of its own, loopback and the wildcards apart. -/
  addresses : List IpAddress
  /-- The lowest port that can be asked for by its number. -/
  lowest : UInt16
  /-- What the host hands out by itself can be asked for. -/
  lowest_le : lowest.toNat ≤ lowestOwnPort
  deriving DecidableEq, Repr

/-- A host that has loopback only, with programs that may have every port. -/
def Allowance.loopback : Allowance := ⟨[], 0, Nat.zero_le _⟩

/-- The **sockets** that a host has given out, the latest first. -/
structure Host where
  /-- The addresses that are bound. -/
  bound : List SocketAddress
  /-- The targets of the outbound sockets. -/
  outbound : List SocketAddress
  allowance : Allowance
  deriving DecidableEq, Repr

namespace Host

def idle : Host := ⟨[], [], .loopback⟩

/-- The host's refusal of an address that is not its own. -/
def notLocal : Fault := .io "Cannot assign requested address (os error 99)".toList

/-- The host's refusal of an address that is bound. -/
def inUse : Fault := .io "Address already in use (os error 98)".toList

/-- The host's reason for not connecting to the broadcast address, and for not binding a port that
is too low. -/
def forbidden : Text := "Permission denied (os error 13)".toList

/-- What the host reports to a sender whose last datagram reached nobody. -/
def refused : Text := "Connection refused (os error 111)".toList

def isFree (h : Host) (a : SocketAddress) : Bool := h.bound.all fun b => !a.collides b

def reaches (h : Host) (a : SocketAddress) : Bool :=
  h.bound.any fun b => b.port = a.port && b.ip.covers a.ip.destination

/-- How many ports the host hands out by itself. -/
def ownPorts : Nat := 28232

/-- Some free port on an address. -/
def freePort? (h : Host) (ip : IpAddress) : Option UInt16 :=
  ((List.range ownPorts).map fun i => UInt16.ofNat (lowestOwnPort + i)).find? fun port =>
    h.isFree { ip, port }

/-- Whether an address is one of the host. -/
def owns (h : Host) (ip : IpAddress) : Bool :=
  ip.isLocal || h.allowance.addresses.any fun own => own.plain = ip.plain

/-- Binds one address, of which the port is given and no zone. -/
def bindExactly (h : Host) (a : SocketAddress) : Except Fault (SocketAddress × Host) :=
  if h.isFree a then .ok (a, { h with bound := a :: h.bound }) else .error inUse

/-- Binds an address. The answer is the address as it is bound: with its port, without a zone. -/
def bind (h : Host) (a : SocketAddress) : Except Fault (SocketAddress × Host) :=
  if !h.owns a.ip then .error notLocal
  else if a.port = 0 then
    match h.freePort? a.ip with
    | some port => h.bindExactly { ip := a.ip, port }
    | none => .error inUse
  else if a.port < h.allowance.lowest then .error (.io forbidden)
  else h.bindExactly a.unzoned

/-- Binds what can be bound of some addresses. -/
def bindAll (h : Host) (addresses : List SocketAddress) : Host :=
  addresses.foldl (fun h a => ((h.bind a).toOption.map Prod.snd).getD h) h

/-- The ports that cannot be bound on an address, among some. -/
def busyPorts (h : Host) (ip : IpAddress) (ports : List UInt16) : List UInt16 :=
  ports.filter fun port => !h.isFree { ip, port }

def release (h : Host) (a : SocketAddress) : Host := { h with bound := h.bound.erase a.unzoned }

/-- An outbound socket, connected to a target. -/
def connect (h : Host) (target : SocketAddress) : Except Fault Host :=
  if target.ip.plain = .broadcast then .error (.unreachable target.render forbidden)
  else .ok { h with outbound := target :: h.outbound }

/-- Gives up an outbound socket, the latest one to its target. -/
def disconnect (h : Host) (target : SocketAddress) : Host :=
  { h with outbound := h.outbound.erase target }

end Host

end MediaProxy
