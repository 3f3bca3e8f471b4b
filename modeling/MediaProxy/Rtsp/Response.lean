import MediaProxy.Header

/-!
# RTSP responses

What the media server answers: a status line, header fields, an empty line, and a body whose
length a field announces. This module reads the head; `Rtsp.Stream` takes heads and bodies off a
stream of octets.

The status line is cut at its first two spaces. The version must begin with `RTSP/` and the
status must be a numeral of sixteen bits; the reason is all that is left, trimmed.
-/

namespace MediaProxy.Rtsp

/-- A **response** of the media server. -/
structure Response where
  version : Text
  status : UInt16
  reason : Text
  fields : Fields
  body : Option Text
  deriving DecidableEq, Repr

namespace Response

/-- The version, the status and the reason on a status line. -/
def readStatusLine (line : Text) : Except Defect (Text × UInt16 × Text) :=
  match Text.cutAt ' ' line with
  | none => .error .startLine
  | some (version, rest) =>
    let (status, reason) := (Text.cutAt ' ' rest).getD (rest, [])
    match Text.readUInt16? status with
    | none => .error .startLine
    | some status =>
      if "RTSP/".toList.isPrefixOf version then .ok (version, status, Text.trim reason)
      else .error .startLine

/-- The response on a head: a status line and fields up to the first empty line. -/
def ofHead (head : Text) : Except Defect Response :=
  match Text.lines head with
  | [] => .error .empty
  | first :: rest => do
    let (version, status, reason) ← readStatusLine first
    let fields ← Fields.ofLines rest
    return ⟨version, status, reason, fields, none⟩

/-- Whether the server did what it was asked. -/
def isSuccess (r : Response) : Bool := 200 ≤ r.status ∧ r.status < 300

/-- The value of the first field of a name. -/
def get? (r : Response) (name : Text) : Option Text := r.fields.get? name

/-- The number of the request that is answered. -/
def cseq? (r : Response) : Option UInt32 := (r.get? "CSeq".toList).bind Text.readUInt32?

/-- The length that the head announces for the body. -/
def contentLength? (r : Response) : Option Nat :=
  (r.get? "Content-Length".toList).bind (Text.readBelow? UInt64.size)

/-- The session that the server has opened: the `Session` field up to its first semicolon, if
anything but white space stands there. -/
def sessionId? (r : Response) : Option Text :=
  ((r.get? "Session".toList).map fun value =>
    Text.trim ((Text.splitOn ';' value).headD [])).filter (· ≠ [])

/-- The seconds after which an idle session ends: the first `timeout` parameter behind the
session, when it is a numeral. -/
def timeout? (r : Response) : Option UInt64 := do
  let value ← r.get? "Session".toList
  let seconds ← (Text.splitOn ';' value).tail.findSome? fun parameter =>
    Text.after? "timeout=".toList (Text.trim parameter)
  Text.readUInt64? (Text.trim seconds)

/-- The status line as it is shown in transcripts. -/
def statusLine (r : Response) : Text :=
  r.version ++ " ".toList ++ Text.ofNat r.status.toNat ++ " ".toList ++ r.reason

end Response

end MediaProxy.Rtsp
