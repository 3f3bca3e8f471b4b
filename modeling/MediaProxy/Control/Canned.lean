import MediaProxy.Control.Server

/-!
# Canned replies

Handlers that do nothing but reply, always in the same way. They are enough to try a control server
out.
-/

namespace MediaProxy.Control

/-- A handler that always **replies in the same way**. -/
inductive Canned where
  /-- There is no reply. -/
  | silence
  /-- The reply is the request itself. -/
  | echo
  /-- The reply is this packet. -/
  | packet (reply : Amp.Packet)
  deriving DecidableEq, Repr

def Canned.reply : Canned → Amp.Packet → Option Amp.Packet
  | .silence, _ => none
  | .echo, request => some request
  | .packet reply, _ => some reply

def Server.receiveCanned (s : Server Canned) (datagram : Bytes) : Exchange :=
  (s.receive (fun (handler : Canned) request (state : Unit) => (handler.reply request, state)) datagram ()).1

end MediaProxy.Control
