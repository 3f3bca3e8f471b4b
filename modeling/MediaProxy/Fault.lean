import MediaProxy.Text.Numeral

/-!
# Faults

Everything that can go wrong is one type, `Fault`, sorted by cause: addressing, protocol,
session and server. A fault says what happened in the terms of the library; its wording is a
function of it (`Fault.message`), so a law can speak of the cause and a reply can carry the
sentence. Only a backend that could not be started has another fault inside.
-/

namespace MediaProxy

/-- What is wrong with a message that cannot be read. -/
inductive Defect where
  /-- There is no start line. -/
  | empty
  /-- The start line has the wrong shape. -/
  | startLine
  /-- A header line has no colon. -/
  | header
  /-- The message ends before it is complete. -/
  | truncated
  deriving DecidableEq, Repr

def Defect.message : Defect → Text
  | .empty => "empty message".toList
  | .startLine => "invalid start line".toList
  | .header => "invalid header".toList
  | .truncated => "truncated message".toList

/-- The **cause of a failure**. -/
inductive Fault where
  /-- The host refused a socket or file operation. -/
  | io (reason : Text)
  /-- An address names no host. -/
  | unresolved (address reason : Text)
  /-- A relay could not be pointed at its target. -/
  | unreachable (address reason : Text)
  /-- No two neighbouring ports are free in a range. -/
  | portsExhausted (first last : UInt16)
  /-- The client has a session already. -/
  | sessionExists (client : Text)
  /-- The client has no session. -/
  | sessionUnknown (client : Text)
  /-- The session had ended before it was stopped; `outcome` is what its cleanup left. -/
  | stoppedEarly (outcome : Text)
  /-- The session's cleanup failed. -/
  | cleanup (reason : Text)
  /-- A URL cannot be used. -/
  | badUrl (url reason : Text)
  /-- The media server could not be engaged. -/
  | backendRefused (cause : Fault)
  /-- The media server answered with a status outside 200 to 299. -/
  | rtspStatus (method : Text) (status : UInt16) (reason : Text)
  /-- A message cannot be read. -/
  | malformed (defect : Defect)
  /-- A request of a known code has headers that say nothing. -/
  | illegalValue (code value : Text)
  /-- A request code is served already. -/
  | handlerExists (code : Text)
  /-- The server runs already. -/
  | alreadyRunning
  deriving DecidableEq, Repr, Inhabited

namespace Fault

def message : Fault → Text
  | .io reason => "I/O error: ".toList ++ reason
  | .unresolved address reason =>
    "failed to resolve address ".toList ++ address ++ ": ".toList ++ reason
  | .unreachable address reason =>
    "failed to connect relay to ".toList ++ address ++ ": ".toList ++ reason
  | .portsExhausted first last =>
    "failed to allocate UDP relay pair in port range ".toList ++ Text.ofNat first.toNat
      ++ "-".toList ++ Text.ofNat last.toNat
  | .sessionExists client => "session already exists for client ".toList ++ client
  | .sessionUnknown client => "session not found for client ".toList ++ client
  | .stoppedEarly outcome => "session stopped prematurely: ".toList ++ outcome
  | .cleanup reason => "session cleanup failed: ".toList ++ reason
  | .badUrl url reason => "invalid RTSP URL ".toList ++ url ++ ": ".toList ++ reason
  | .backendRefused cause => "failed to start RTSP client: ".toList ++ cause.message
  | .rtspStatus method status reason =>
    "RTSP ".toList ++ method ++ " failed: ".toList ++ Text.ofNat status.toNat ++ " ".toList ++ reason
  | .malformed defect => "parse error: ".toList ++ defect.message
  | .illegalValue code value => "illegal value for AMP ".toList ++ code ++ ": ".toList ++ value
  | .handlerExists code => "handler already registered for AMP code ".toList ++ code
  | .alreadyRunning => "server already running".toList

/-- The wordings of what lies behind a fault, outermost first: the host's own reason behind an
input or output fault, and the inner fault with all that lies behind it in turn. -/
def sources : Fault → List Text
  | .io reason => [reason]
  | .backendRefused cause => cause.message :: cause.sources
  | _ => []

end Fault

end MediaProxy
