import MediaProxy.Rtsp.Peer
import MediaProxy.Rtsp.Request
import MediaProxy.Rtsp.Stream
import MediaProxy.Rtsp.Transcript
import MediaProxy.Rtsp.Transport

/-!
# RTSP clients

One session on the media server, over a connection of its own. It is opened by three requests,
`DESCRIBE`, `SETUP` and `PLAY`, each sent only when the one before has been answered with success.
The server's name for the session, if it gives one with its answer to `SETUP`, goes with every
request from then on.

Once it plays, a client only listens. Whatever responses come are noted and change nothing; the
session is over when the stream ends or holds something that is no response. A client that is
stopped says `TEARDOWN`, once, and shuts the connection down.

A connection is known by what the other end does with requests (`Peer`), by what the client has said
whether or not the other end was still there to take it, by what has come that the client has not
read, and by the file of the transcript. When the host refuses to send a request, the error of the
host is what comes of it, and nothing is read, even if a response has come already.
-/

namespace MediaProxy.Rtsp

/-- Why a client could not be opened. -/
inductive Refusal where
  /-- For a reason. -/
  | fault (cause : Fault)
  /-- Its reader broke down, with this message. -/
  | brokeDown (message : Text)
  deriving DecidableEq, Repr

/-- The fault of a server that hangs up where it owes a response. -/
def hungUp : Fault := .io "connection closed by server".toList

/-- One **connection** from the client's side. -/
structure Connection where
  peer : Peer
  /-- The requests that have been sent. -/
  said : List Request
  /-- What has been received and not been read. -/
  unread : Bytes
  /-- Where the transcript goes. -/
  log : Option Text
  deriving DecidableEq, Repr

namespace Connection

def start (released : Bool) (script : Script) (log : Option Text) : Connection :=
  let (sent, peer) := (Peer.fresh script).releaseIf released
  ⟨peer, [], sent, log⟩

/-- How what has been received ends. -/
def ending (c : Connection) : Ending := if c.peer.closed then .closed else .silent

/-- Sends a request, unless the host refuses to. -/
def say (released : Bool) (request : Request) (c : Connection) (t : Transcripts) :
    Except Fault Unit × Connection × Transcripts :=
  let t := t.record c.log saidMark request.render
  match c.peer.script.refuses c.said.length with
  | some error => (.error (.io error), { c with said := c.said ++ [request] }, t)
  | none =>
    let (sent, peer) := c.peer.take released request.render
    (.ok (), { c with peer := peer, said := c.said ++ [request], unread := c.unread ++ sent }, t)

/-- Takes one response off the connection. -/
def hear (c : Connection) : Reading × Connection :=
  let (reading, rest) := takeResponse c.ending c.unread
  (reading, { c with unread := rest })

/-- Sends a request and waits for the response to it, which must be one of success. -/
def exchange (released : Bool) (request : Request) (c : Connection) (t : Transcripts) :
    Except Refusal Response × Connection × Transcripts :=
  match c.say released request t with
  | (.error cause, c, t) => (.error (.fault cause), c, t)
  | (.ok (), c, t) =>
    match c.hear with
    | (.response r, c) =>
      let t := t.record c.log heardMark r.statusLine
      if r.isSuccess then (.ok r, c, t)
      else (.error (.fault (.rtspStatus request.method r.status r.reason)), c, t)
    | (.fault cause, c) | (.starved cause, c) => (.error (.fault cause), c, t)
    | (.over, c) => (.error (.fault hungUp), c, t)
    | (.brokeDown message, c) => (.error (.brokeDown message), c, t)

end Connection

/-! ## Opening a session -/

/-- The request that asks what the media is. -/
def describeRequest (url : Text) : Request :=
  (Request.of "DESCRIBE".toList url 1).add "Accept".toList "application/sdp".toList

/-- The request that asks for delivery to a port and its successor. -/
def setupRequest (url : Text) (port : UInt16) : Request :=
  (Request.of "SETUP".toList url 2).add "Transport".toList (Transport.unicast port).render

/-- The request that asks for the media to flow. -/
def playRequest (url : Text) (session : Option Text) : Request :=
  ((Request.of "PLAY".toList url 3).within session).add "Range".toList "npt=0.000-".toList

def teardownRequest (url : Text) (session : Option Text) : Request :=
  (Request.of "TEARDOWN".toList url 4).within session

/-- Opens a session on a connection. The answer is the server's name for it. -/
def handshake (released : Bool) (url : Text) (port : UInt16) (c : Connection) (t : Transcripts) :
    Except Refusal (Option Text) × Connection × Transcripts :=
  match c.exchange released (describeRequest url) t with
  | (.error why, c, t) => (.error why, c, t)
  | (.ok _, c, t) =>
    match c.exchange released (setupRequest url port) t with
    | (.error why, c, t) => (.error why, c, t)
    | (.ok setup, c, t) =>
      match c.exchange released (playRequest url setup.sessionId?) t with
      | (.error why, c, t) => (.error why, c, t)
      | (.ok _, c, t) => (.ok setup.sessionId?, c, t)

/-! ## Playing -/

/-- Whether a client still listens. -/
inductive Life where
  /-- It listens. -/
  | playing
  /-- The session is over. -/
  | finished
  /-- The reader broke down: nobody listens, and nobody will ever learn that it is over. -/
  | deaf
  deriving DecidableEq, Repr

/-- A **session** on the media server. -/
structure Client where
  url : Text
  /-- The port that media is delivered to. -/
  port : UInt16
  /-- The server's name for the session. -/
  session : Option Text
  stopped : Bool
  life : Life
  connection : Connection
  deriving DecidableEq, Repr

namespace Client

def label (c : Client) : Text :=
  "RTSP ".toList ++ c.url ++ " -> rtp port ".toList ++ Text.ofNat c.port.toNat

/-- Listens to what has been received: takes at most some number of responses. What is left unread
when the client is starved stays unread. -/
def listenFor : Nat → Connection → Transcripts → Life × Connection × Transcripts
  | 0, c, t => (.playing, c, t)
  | n + 1, c, t =>
    match c.hear with
    | (.response r, c) => listenFor n c (t.record c.log heardMark r.statusLine)
    | (.starved _, _) => (.playing, c, t)
    | (.fault _, c) | (.over, c) => (.finished, c, t)
    | (.brokeDown _, c) => (.deaf, c, t)

/-- Listens to all that has been received. Every response takes an octet at least, so there are no
more of them than octets. -/
def listen (c : Client) (t : Transcripts) : Client × Transcripts :=
  if c.life = .playing then
    let (life, connection, t) := listenFor (c.connection.unread.length + 1) c.connection t
    ({ c with life := life, connection := connection }, t)
  else (c, t)

/-- **Opens a session** on a connection. -/
def openOn (released : Bool) (url : Text) (port : UInt16) (c : Connection) (t : Transcripts) :
    Except Refusal Client × Connection × Transcripts :=
  match handshake released url port c t with
  | (.error why, c, t) => (.error why, c, t)
  | (.ok session, c, t) =>
    let (client, t) := listen ⟨url, port, session, false, .playing, c⟩ t
    (.ok client, client.connection, t)

/-- The server sends something. -/
def receive (sent : Bytes) (c : Client) (t : Transcripts) : Client × Transcripts :=
  { c with connection := { c.connection with unread := c.connection.unread ++ sent } }.listen t

/-- The server is let go. -/
def release (c : Client) (t : Transcripts) : Client × Transcripts :=
  let (sent, peer) := c.connection.peer.release
  { c with connection := { c.connection with peer := peer } }.receive sent t

/-- **Stops a client.** The first stop says `TEARDOWN`, which the host may refuse to send, and shuts
the connection down, which ends the session if anybody listens; further stops do nothing. -/
def stop (released : Bool) (c : Client) (t : Transcripts) : Client × Transcripts :=
  if c.stopped then (c, t)
  else
    let (_, connection, t) := c.connection.say released (teardownRequest c.url c.session) t
    let life := if c.life = .playing then .finished else c.life
    ({ c with stopped := true, life := life, connection := connection }, t)

end Client

end MediaProxy.Rtsp
