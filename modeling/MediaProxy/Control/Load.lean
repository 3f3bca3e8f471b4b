import MediaProxy.Amp.Request
import MediaProxy.Control.Server
import MediaProxy.Meter

/-!
# Counting load

A load generator numbers its packets from zero. Every packet that carries a number counts as
received. A number beyond the one expected leaves a gap, and the size of the gap counts as missed; a
number below it is a packet out of order, and counts as nothing but received. The number expected
next is one more than the last, and stays at the largest number of sixty-four bits once there.

No packet of load is ever answered.
-/

namespace MediaProxy.Control

/-- What has been **counted of a load**, and the number that is expected next. -/
structure LoadCount where
  received : Meter
  missed : Meter
  expected : UInt64
  deriving DecidableEq, Repr

namespace LoadCount

def start : LoadCount := ⟨.named "Received".toList, .named "Missed".toList, 0⟩

/-- The number after one, if there is a greater one. -/
def next (seq : UInt64) : UInt64 := if seq = -1 then seq else seq + 1

/-- Counts one packet of a number. -/
def add (seq : UInt64) (l : LoadCount) : LoadCount :=
  { received := l.received.record 1
    missed := if l.expected < seq then l.missed.record (seq - l.expected) else l.missed
    expected := next seq }

/-- Counts a packet, if it carries a number. -/
def handle (packet : Amp.Packet) (l : LoadCount) : LoadCount :=
  match Amp.LoadReport.ofPacket? packet with
  | some report => l.add report.seq
  | none => l

def stop (l : LoadCount) : LoadCount := { l with received := l.received.stop, missed := l.missed.stop }

end LoadCount

/-- The handlers that a load counter needs on a control server, `handler` standing for the counter.
-/
def loadHandlers {H : Type} (handler : H) : Handlers H := [(.load, handler)]

def receiveLoad (s : Server Unit) (datagram : Bytes) (l : LoadCount) : Exchange × LoadCount :=
  s.receive (fun _ packet l => (none, l.handle packet)) datagram l

end MediaProxy.Control
