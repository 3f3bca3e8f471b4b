import MediaProxy.Net.Host
import MediaProxy.Net.HostPort
import MediaProxy.Net.Resolve
import MediaProxy.Proxy.Backend
import MediaProxy.Rtsp.Client

/-!
# The media server

The media server as the proxy meets it: an address where it listens, a script for each connection
that is yet to come, and the clients that hold a session on it. A connection is refused when nobody
listens at its address, or when there is no script for it.

The clients are the proxy's backends. A connection on which no session came about is kept as well,
for the requests that were made on it.
-/

namespace MediaProxy

/-- The port of a media server unless its URL gives another. -/
def defaultRtspPort : UInt16 := 554

/-- What became of a **connection**. -/
inductive Line where
  /-- No session came about. -/
  | lost (peer : Rtsp.Peer)
  /-- A client holds a session on it. -/
  | held (client : WorkerId)
  deriving DecidableEq, Repr

/-- The **media server** with all that is connected to it. -/
structure MediaServer where
  /-- Where it listens. -/
  address : Option SocketAddress
  /-- What it does on the connections to come. -/
  scripts : List Rtsp.Script
  /-- Whether it says what is left after its last answers at once, and not only when let go. -/
  released : Bool
  clients : List Rtsp.Client
  /-- The connections, in the order in which they were made. -/
  lines : List Line
  transcripts : Rtsp.Transcripts
  deriving DecidableEq, Repr

namespace MediaServer

/-- A media server that nobody has connected to. -/
def idle (address : Option SocketAddress) (scripts : List Rtsp.Script) (released : Bool)
    (directories : List Text) : MediaServer :=
  ⟨address, scripts, released, [], [], ⟨directories, []⟩⟩

def locate (url : Url) : Except Fault SocketAddress :=
  match url.host? with
  | none => .error (.badUrl url.render "missing host".toList)
  | some host => resolve (joinHostPort host (url.port?.getD defaultRtspPort))

def listensAt (s : MediaServer) (a : SocketAddress) : Bool :=
  s.address.any fun b => b.port = a.port && b.ip.covers a.ip.destination

/-- The script of the next connection to an address. -/
def accept (s : MediaServer) (a : SocketAddress) : Except Fault (Rtsp.Script × MediaServer) :=
  match s.scripts with
  | script :: rest =>
    if s.listensAt a then .ok (script, { s with scripts := rest }) else .error (.io Host.refused)
  | [] => .error (.io Host.refused)

/-- **Opens a client** for a URL. -/
def openClient (url : Url) (port : UInt16) (log : Option Text) (s : MediaServer) :
    Except Rtsp.Refusal Rtsp.Client × MediaServer :=
  match (locate url).bind s.accept with
  | .error fault => (.error (.fault fault), s)
  | .ok (script, s) =>
    let connection := Rtsp.Connection.start s.released script (s.transcripts.open? log)
    match Rtsp.Client.openOn s.released url.render port connection s.transcripts with
    | (.error why, connection, transcripts) =>
      (.error why, { s with lines := s.lines ++ [.lost connection.peer], transcripts := transcripts })
    | (.ok client, _, transcripts) =>
      (.ok client,
        { s with
          clients := s.clients ++ [client]
          lines := s.lines ++ [.held s.clients.length]
          transcripts := transcripts })

/-- Puts a client, and the transcripts after what it did, in the place of those before. -/
def setClient (s : MediaServer) (w : WorkerId) (result : Rtsp.Client × Rtsp.Transcripts) : MediaServer :=
  { s with clients := s.clients.set w result.1, transcripts := result.2 }

def stopClient (w : WorkerId) (s : MediaServer) : MediaServer :=
  match s.clients[w]? with
  | none => s
  | some client => s.setClient w (client.stop s.released s.transcripts)

/-- Lets the server go on the connection of a client. -/
def releaseClient (s : MediaServer) (w : WorkerId) : MediaServer :=
  match s.clients[w]? with
  | none => s
  | some client => s.setClient w (client.release s.transcripts)

/-- Lets the server go on every connection that there is. -/
def release (s : MediaServer) : MediaServer := (List.range s.clients.length).foldl releaseClient s

/-- The clients whose session is over. -/
def finished (s : MediaServer) : List WorkerId :=
  (List.range s.clients.length).filter fun w => (s.clients[w]?).any fun c => c.life = .finished

/-- The requests that were made on a connection. -/
def requestsOn (s : MediaServer) : Line → List Text
  | .lost peer => peer.requests
  | .held w => ((s.clients[w]?).map fun c => c.connection.peer.requests).getD []

/-- The requests that were made on each connection. -/
def requests (s : MediaServer) : List (List Text) := s.lines.map s.requestsOn

/-- The fault behind a refusal. A reader that broke down is a fault of the host. -/
def faultOf : Rtsp.Refusal → Fault
  | .fault cause => cause
  | .brokeDown message => .io message

instance : Backend MediaServer where
  connect url port log s :=
    match s.openClient url port log with
    | (.ok client, s) => (.ok (client.life = .finished), s)
    | (.error why, s) => (.error (faultOf why), s)
  halt := stopClient

end MediaServer

end MediaProxy
