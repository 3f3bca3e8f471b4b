import MediaProxy.Text.Basic

/-!
# AMP codes

A control message starts with a code: three requests, two replies, and whatever else a peer may
send. A code that this library does not know keeps its token, so that an unknown request can
still be named; it is never equal to a known code, not even when the token is the same.
-/

namespace MediaProxy.Amp

/-- The **code** of a control message. -/
inductive Code where
  | startSession
  | stopSession
  | load
  | ok
  | error
  /-- A code that is none of the above. -/
  | other (token : Text)
  deriving DecidableEq, Repr

namespace Code

/-- The token that stands for a code on the wire. -/
def token : Code → Text
  | .startSession => "START_SESSION".toList
  | .stopSession => "STOP_SESSION".toList
  | .load => "LOAD".toList
  | .ok => "OK".toList
  | .error => "ERROR".toList
  | .other token => token

/-- The codes that have a token of their own. -/
def known : List Code := [.startSession, .stopSession, .load, .ok, .error]

def ofToken (token : Text) : Code :=
  (known.find? fun code => code.token = token).getD (.other token)

end Code

end MediaProxy.Amp
