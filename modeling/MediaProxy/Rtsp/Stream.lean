import MediaProxy.Rtsp.Response
import MediaProxy.Text.Utf8

/-!
# RTSP responses on a stream

Responses follow one another on one connection and are taken off it one at a time. Blank lines
before a response are skipped; its head ends at the next blank line; its body is exactly as long
as the head announces and may hold anything, also what looks like another response.

The result of a read (`Reading`) says how far the stream has been consumed: a response up to the end
of its body, a head that cannot be read up to its blank line, a line that is no text up to its line
feed, and an incomplete message up to the end of the stream. A length that exceeds every allocation
(`largestBody`) is not an error but the end of the reader.

What has come of a stream ends in one of two ways (`Ending`). The stream is closed, so that nothing
more will come; or the peer is silent for now. A reader that is in the middle of a message then, or
before one, is starved: it may wait on, or stop waiting and report why.
-/

namespace MediaProxy.Rtsp

/-- How the octets of a stream end. -/
inductive Ending where
  /-- The peer has closed the connection. -/
  | closed
  /-- The peer sends nothing more for now. -/
  | silent
  deriving DecidableEq, Repr

/-- The result of taking one response off a stream. -/
inductive Reading where
  /-- A whole response. -/
  | response (r : Response)
  /-- No response, for this reason; the stream can be read further. -/
  | fault (cause : Fault)
  /-- The stream is over, with no message begun. -/
  | over
  /-- No response so far; a reader that stops waiting reports this. -/
  | starved (cause : Fault)
  /-- The reader itself breaks down, with this message. -/
  | brokeDown (message : Text)
  deriving DecidableEq, Repr

/-- The longest body that memory can be asked for. -/
def largestBody : Nat := 0x7FFFFFFFFFFFFFFF

/-- The reason given for a line that is not UTF-8. -/
def notText : Fault := .io "stream did not contain valid UTF-8".toList

/-- The reason given when a wait for the peer has timed out. -/
def timedOut : Fault := .io "Resource temporarily unavailable (os error 11)".toList

/-- The result of taking one head off a stream. -/
inductive HeadReading where
  /-- The lines of a head with its blank line, and what follows it. -/
  | head (text : Text) (rest : Bytes)
  /-- No head, for this reason, and what follows. -/
  | fault (cause : Fault) (rest : Bytes)
  /-- The stream is over, with no head begun. -/
  | over
  /-- No head so far. -/
  | starved

/-- The end of the stream, `head` and the octets of `line` being read. -/
def endOfHead (ending : Ending) (head : Text) (line : Bytes) : HeadReading :=
  match ending with
  | .silent => .starved
  | .closed =>
    match Text.ofBytes? line with
    | none => .fault notText []
    | some text =>
      if Text.isBlankText (head ++ text) then .over else .fault (.malformed .truncated) []

def isEmptyLine (line : Text) : Bool := line = ['\r', '\n'] || line = ['\n']

/-- Takes a head off a stream, octet by octet: `head` holds the lines read so far, `line` the
octets of the line in progress, last first. -/
def takeHead (ending : Ending) (head : Text) (line : Bytes) : Bytes → HeadReading
  | [] => endOfHead ending head line.reverse
  | b :: rest =>
    if b = 10 then
      match Text.ofBytes? (line.reverse ++ [10]) with
      | none => .fault notText rest
      | some text =>
        if isEmptyLine text then
          if Text.isBlankText head then takeHead ending [] [] rest else .head (head ++ text) rest
        else takeHead ending (head ++ text) [] rest
    else takeHead ending head (b :: line) rest

/-- Takes the body that a head announces off a stream. -/
def takeBody (ending : Ending) (r : Response) (rest : Bytes) : Reading × Bytes :=
  match r.contentLength? with
  | none | some 0 => (.response r, rest)
  | some length =>
    if largestBody < length then (.brokeDown "capacity overflow".toList, rest)
    else if rest.length < length then
      match ending with
      | .closed => (.fault (.malformed .truncated), [])
      | .silent => (.starved (.malformed .truncated), [])
    else (.response { r with body := some (Text.lossy (rest.take length)) }, rest.drop length)

/-- **Takes one response** off a stream; the rest is what the next read begins with. -/
def takeResponse (ending : Ending) (stream : Bytes) : Reading × Bytes :=
  match takeHead ending [] [] stream with
  | .over => (.over, [])
  | .starved => (.starved timedOut, [])
  | .fault cause rest => (.fault cause, rest)
  | .head text rest =>
    match Response.ofHead text with
    | .error defect => (.fault (.malformed defect), rest)
    | .ok r => takeBody ending r rest

/-! ## Whole streams -/

/-- What a reader has got from a closed stream, up to a number of reads. A reader that breaks down
leaves nothing but its message. -/
def takeUpTo (reads : Nat) (stream : Bytes) : Except Text (List (Except Fault Response)) :=
  match reads with
  | 0 => .ok []
  | reads + 1 =>
    match takeResponse .closed stream with
    | (.over, _) => .ok []
    | (.response r, rest) => do return .ok r :: (← takeUpTo reads rest)
    | (.fault cause, rest) => do return .error cause :: (← takeUpTo reads rest)
    | (.starved cause, rest) => do return .error cause :: (← takeUpTo reads rest)
    | (.brokeDown message, _) => .error message

/-- **All responses** on a closed stream, and the faults between them. Every read takes an octet or
more, so their number bounds the reads. -/
def takeAll (stream : Bytes) : Except Text (List (Except Fault Response)) :=
  takeUpTo stream.length stream

end MediaProxy.Rtsp
