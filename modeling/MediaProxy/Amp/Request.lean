import MediaProxy.Amp.Packet

/-!
# AMP requests

The three requests as values: start a session, stop one, and count a unit of synthetic load. A
packet is decoded only under the code of the request, from the first field of each name, and
only when every field says something: hosts and media names must not be empty, ports and
sequence numbers must be numerals of their width.
-/

namespace MediaProxy.Amp

/-- A **request for media**: the host and port that receive it, and the name of the media. The
port is that of the media itself; its control stream goes to the next one. -/
structure StartRequest where
  host : Text
  port : UInt16
  media : Text
  deriving DecidableEq, Repr

/-- A request to end the session of a host and port. -/
structure StopRequest where
  host : Text
  port : UInt16
  deriving DecidableEq, Repr

/-- One packet of synthetic load. -/
structure LoadReport where
  seq : UInt64
  deriving DecidableEq, Repr

/-- The value of a field that must not be empty. -/
def filled? (p : Packet) (name : Text) : Option Text :=
  (p.get? name).filter (· ≠ [])

namespace StartRequest

def ofPacket? (p : Packet) : Option StartRequest :=
  if p.code = .startSession then do
    let host ← filled? p "Receiver-Host".toList
    let port ← (p.get? "Port".toList).bind Text.readUInt16?
    let media ← filled? p "Media".toList
    return ⟨host, port, media⟩
  else none

def toPacket (r : StartRequest) : Packet :=
  ⟨.startSession, [("Receiver-Host".toList, r.host), ("Port".toList, Text.ofNat r.port.toNat),
    ("Media".toList, r.media)]⟩

end StartRequest

namespace StopRequest

def ofPacket? (p : Packet) : Option StopRequest :=
  if p.code = .stopSession then do
    let host ← filled? p "Receiver-Host".toList
    let port ← (p.get? "Port".toList).bind Text.readUInt16?
    return ⟨host, port⟩
  else none

def toPacket (r : StopRequest) : Packet :=
  ⟨.stopSession, [("Receiver-Host".toList, r.host), ("Port".toList, Text.ofNat r.port.toNat)]⟩

end StopRequest

namespace LoadReport

def ofPacket? (p : Packet) : Option LoadReport :=
  if p.code = .load then do
    let seq ← (p.get? "Seq-No".toList).bind Text.readUInt64?
    return ⟨seq⟩
  else none

def toPacket (r : LoadReport) : Packet := ⟨.load, [("Seq-No".toList, Text.ofNat r.seq.toNat)]⟩

end LoadReport

end MediaProxy.Amp
