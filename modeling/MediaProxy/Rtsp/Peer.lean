import MediaProxy.Text.Basic

/-!
# Scripted media servers

The other end of a connection, as far as a client can tell: it takes requests one after another and
answers each with some octets, with nothing, or by closing the connection. A `Script` says which.

After its last answer the server has more to say: some octets that nobody asked for, and then it may
hang up. It does so at once, or only when it is let go (`Peer.release`). A server that has not hung
up goes on taking requests and answers none of them.

What is sent to a server that has gone away the host takes for a while, and then it refuses it. From
which request on it does so cannot be foretold: it is part of the script, like everything else that
the client has no say in.
-/

namespace MediaProxy.Rtsp

/-- What a media server does on **one connection**. -/
structure Script where
  /-- The answer to each request; no octets at all stand for closing the connection. -/
  replies : List (Option Bytes)
  /-- What it says after its last answer. -/
  after : Bytes
  /-- Whether it hangs up then. -/
  hangsUp : Bool
  /-- From which request on, counted from zero, the host refuses to send any, if it ever does, and
  with which error. -/
  refusal : Option (Nat × Text)
  deriving DecidableEq, Repr

/-- The error with which the host refuses to send the request of a number, if it does. -/
def Script.refuses (script : Script) (n : Nat) : Option Text :=
  (script.refusal.filter fun (first, _) => first ≤ n).map Prod.snd

/-- One **connection** from the media server's side. -/
structure Peer where
  script : Script
  /-- The requests that have been taken. -/
  requests : List Text
  /-- Whether it has said all that the script has to say. -/
  spent : Bool
  closed : Bool
  deriving DecidableEq, Repr

namespace Peer

/-- A connection on which nothing has happened. -/
def fresh (script : Script) : Peer := ⟨script, [], false, false⟩

/-- Lets the server go: once all its answers are given it says the rest and may hang up. The octets
are what it sends. -/
def release (p : Peer) : Bytes × Peer :=
  if p.closed || p.spent || decide (p.requests.length < p.script.replies.length) then ([], p)
  else (p.script.after, { p with spent := true, closed := p.script.hangsUp })

/-- Lets the server go if it is to be. -/
def releaseIf (released : Bool) (p : Peer) : Bytes × Peer := if released then p.release else ([], p)

/-- The server takes one request. The octets are what it sends. A server that has closed the
connection takes nothing. -/
def take (released : Bool) (request : Text) (p : Peer) : Bytes × Peer :=
  if p.closed then ([], p)
  else
    let reply := p.script.replies[p.requests.length]?
    let p := { p with requests := p.requests ++ [request] }
    match reply with
    | some (some bytes) =>
      let (more, p) := p.releaseIf released
      (bytes ++ more, p)
    | some none => ([], { p with closed := true })
    | none => ([], p)

end Peer

end MediaProxy.Rtsp
