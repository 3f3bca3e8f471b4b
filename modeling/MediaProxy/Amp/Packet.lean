import MediaProxy.Amp.Code
import MediaProxy.Header

/-!
# AMP packets

One control message fills one datagram: a start line of a version and a code, header fields, and
an empty line.

```text
AMP/1.0 START_SESSION
Seq: 7
Receiver-Host: 127.0.0.1
Port: 6000
Media: movie.ts

```

Reading is wider than writing. Any version token passes, lines may end in a bare line feed, the
empty line may be missing, and whatever follows it is ignored. What is refused is a datagram that
is not UTF-8, has no start line, has not exactly two words on it, or has a header line without a
colon; the four are told apart in that order.
-/

namespace MediaProxy.Amp

/-- The version that every packet is written with. -/
def version : Text := "AMP/1.0".toList

/-- A **control message**: a code and ordered header fields. -/
structure Packet where
  code : Code
  fields : Fields
  deriving DecidableEq, Repr

namespace Packet

def add (p : Packet) (name value : Text) : Packet := { p with fields := p.fields ++ [(name, value)] }

/-- The value of the first field of a name. -/
def get? (p : Packet) (name : Text) : Option Text := p.fields.get? name

/-- The number that a request carries and its reply repeats. -/
def seq? (p : Packet) : Option Text := p.get? "Seq".toList

/-- The reason that an error reply gives. -/
def reason? (p : Packet) : Option Text := p.get? "Reason".toList

def isOk (p : Packet) : Bool := p.code = .ok

def success : Packet := ⟨.ok, []⟩

/-- The reply of failure. A field is one line, so the line breaks of a reason become spaces. -/
def failure (reason : Text) : Packet :=
  ⟨.error, [("Reason".toList, Text.replace (fun c => c = '\r' || c = '\n') ' ' reason)]⟩

def replyTo : Except Fault Unit → Packet
  | .ok () => success
  | .error fault => failure fault.message

def ofText (text : Text) : Except Defect Packet :=
  match Text.lines text with
  | [] => .error .empty
  | first :: rest =>
    if Text.isBlankText first then .error .empty
    else
      match Text.words first with
      | [_, token] => do
        let fields ← Fields.ofLines rest
        return ⟨Code.ofToken token, fields⟩
      | _ => .error .startLine

def parse (datagram : Bytes) : Except Defect Packet :=
  match Text.ofBytes? datagram with
  | none => .error .startLine
  | some text => ofText text

def render (p : Packet) : Text :=
  version ++ " ".toList ++ p.code.token ++ Text.crlf ++ p.fields.render ++ Text.crlf

/-- A packet on one line, for a person to read. -/
def describe (p : Packet) : Text :=
  p.code.token ++ " \x7b".toList
    ++ Text.join ", ".toList (p.fields.map fun (name, value) => name ++ "=".toList ++ value)
    ++ "\x7d".toList

end Packet

end MediaProxy.Amp
