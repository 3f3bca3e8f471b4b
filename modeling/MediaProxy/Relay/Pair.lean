import MediaProxy.Net.HostPort
import MediaProxy.Relay.Basic

/-!
# Pairs of relays

A media stream takes two relays on neighbouring ports, the second for its control packets. The
pairs of a range are tried in order, two ports at a time; a pair is taken if both of its ports can
be bound. An error that another port could not mend, an address that does not resolve or a target
that cannot be connected to, ends the search. A first relay whose neighbour is not to be had is
closed before the next pair is tried or the search ends.
-/

namespace MediaProxy.Relay

/-- Two relays, for media and for its control packets. -/
structure Pair where
  rtp : Relay
  rtcp : Relay
  deriving DecidableEq, Repr

namespace Pair

/-- One relay of a pair, the one for control packets or the one for media. -/
def side (p : Pair) (control : Bool) : Relay := if control then p.rtcp else p.rtp

def setSide (p : Pair) (control : Bool) (r : Relay) : Pair :=
  if control then { p with rtcp := r } else { p with rtp := r }

end Pair

/-- The highest port that a pair can begin with. -/
def lastFirstPort : Nat := 65534

/-- Whether a fault is about the addresses of a relay and not about its port. -/
def isFinal : Fault → Bool
  | .unresolved .. | .unreachable .. => true
  | _ => false

/-- Tries to make the pair at a port and its successor. The first relay is closed again when there
is no second one. -/
def tryPair (host first second : Text) (port : UInt16) (s : Site) : Except Fault Pair × Site :=
  match tryOpen (joinHostPort host port) first s with
  | (.error fault, s) => (.error fault, s)
  | (.ok rtp, s) =>
    match tryOpen (joinHostPort host (port + 1)) second s with
    | (.error fault, s) => (.error fault, (rtp.close s).2)
    | (.ok rtcp, s) => (.ok ⟨rtp, rtcp⟩, s)

/-- Tries some ports in turn; `exhausted` is the fault when none is left. -/
def tryFirst (host first second : Text) (exhausted : Fault) :
    List UInt16 → Site → Except Fault Pair × Site
  | [], s => (.error exhausted, s)
  | port :: rest, s =>
    match tryPair host first second port s with
    | (.ok found, s) => (.ok found, s)
    | (.error fault, s) =>
      if isFinal fault then (.error fault, s) else tryFirst host first second exhausted rest s

/-- The ports at which the pairs of a range begin. -/
def candidates (lowest highest : UInt16) : List UInt16 :=
  let last := min highest.toNat lastFirstPort
  (List.range ((last + 2 - lowest.toNat) / 2)).map fun k => UInt16.ofNat (lowest.toNat + 2 * k)

/-- **Searches** a range of ports for the first pair that can be had. -/
def search (host first second : Text) (lowest highest : UInt16) (s : Site) : Except Fault Pair × Site :=
  tryFirst host first second (.portsExhausted lowest highest) (candidates lowest highest) s

/-- **Allocates a pair** of relays: the first of a range of ports that can be had. -/
def allocatePair (host first second : Text) (lowest highest : UInt16) (s : Site) :
    Except Fault (Pair × Site) :=
  outcome (search host first second lowest highest s)

end MediaProxy.Relay
