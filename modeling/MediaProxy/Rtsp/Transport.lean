import MediaProxy.Text.Blank
import MediaProxy.Text.Numeral

/-!
# RTSP transport

The `Transport` header says over which ports media travels: the receiver's pair, which is
required, and the server's pair, which only a server can add. Its parameters are separated by
semicolons; parameters of other names pass unread, and a later pair of one kind replaces an
earlier one even when it cannot be read.
-/

namespace MediaProxy.Rtsp

/-- The **ports of a media stream**: the receiver's for media and control, and the server's. -/
structure Transport where
  rtp : UInt16
  rtcp : UInt16
  server : Option (UInt16 × UInt16)
  deriving DecidableEq, Repr

namespace Transport

/-- Delivery to a port and its successor; the successor of the last port is port zero. -/
def unicast (rtp : UInt16) : Transport := ⟨rtp, rtp + 1, none⟩

/-- Two ports with a hyphen between them. -/
def portPair (ports : UInt16 × UInt16) : Text :=
  Text.ofNat ports.1.toNat ++ "-".toList ++ Text.ofNat ports.2.toNat

/-- The two ports around a hyphen. -/
def readPortPair? (t : Text) : Option (UInt16 × UInt16) :=
  match Text.splitOn '-' t with
  | [a, b] => do
    let rtp ← Text.readUInt16? (Text.trim a)
    let rtcp ← Text.readUInt16? (Text.trim b)
    return (rtp, rtcp)
  | _ => none

/-- The header value. -/
def render (t : Transport) : Text :=
  "RTP/AVP;unicast;client_port=".toList ++ portPair (t.rtp, t.rtcp)
    ++ match t.server with
      | some ports => ";server_port=".toList ++ portPair ports
      | none => []

/-- The port pairs of the receiver and of the server, as far as some parameters give them. -/
structure Pairs where
  client : Option (UInt16 × UInt16)
  server : Option (UInt16 × UInt16)

def Pairs.read (pairs : Pairs) (parameter : Text) : Pairs :=
  let parameter := Text.trim parameter
  match Text.after? "client_port=".toList parameter with
  | some ports => { pairs with client := readPortPair? ports }
  | none =>
    match Text.after? "server_port=".toList parameter with
    | some ports => { pairs with server := readPortPair? ports }
    | none => pairs

/-- The transport that a header value describes, if it gives the receiver's ports. -/
def parse? (value : Text) : Option Transport :=
  let pairs := (Text.splitOn ';' value).foldl Pairs.read ⟨none, none⟩
  pairs.client.map fun (rtp, rtcp) => ⟨rtp, rtcp, pairs.server⟩

end Transport

end MediaProxy.Rtsp
