import MediaProxy.Header

/-!
# RTSP requests

What the proxy sends to the media server. The sequence number and the name of this client come
first on every request; further fields follow in the order in which they were added.
-/

namespace MediaProxy.Rtsp

/-- The name under which this client introduces itself. -/
def userAgent : Text := "amp-proxy/0.1".toList

/-- A **request** to the media server. -/
structure Request where
  method : Text
  uri : Text
  cseq : UInt32
  fields : Fields
  deriving DecidableEq, Repr

namespace Request

/-- A request without further fields. -/
def of (method uri : Text) (cseq : UInt32) : Request := ⟨method, uri, cseq, []⟩

def add (r : Request) (name value : Text) : Request := { r with fields := r.fields ++ [(name, value)] }

/-- A request within a session, if there is one. -/
def within (r : Request) : Option Text → Request
  | some session => r.add "Session".toList session
  | none => r

/-- The wire form of a request. -/
def render (r : Request) : Text :=
  r.method ++ " ".toList ++ r.uri ++ " RTSP/1.0".toList ++ Text.crlf
    ++ Fields.render (("CSeq".toList, Text.ofNat r.cseq.toNat) :: ("User-Agent".toList, userAgent) :: r.fields)
    ++ Text.crlf

end Request

end MediaProxy.Rtsp
