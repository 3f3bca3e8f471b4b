import MediaProxy.CommandLine.Arguments
import MediaProxy.Proxy.Server
import MediaProxy.Text.Tenths

/-!
# The program

The program sets a proxy server up as its arguments say, announces it, serves until a line is
entered or the input ends, and shuts down. If load is counted the counts are printed last.

A program that is misused ends with status two. Everything else ends with status zero, also a proxy
that cannot be set up; what went wrong then is on the error output.
-/

namespace MediaProxy.CommandLine

/-- What the program has printed, and how it ends. -/
structure Report where
  status : UInt8
  output : Text
  errors : Text
  deriving DecidableEq, Repr

/-- The program while it **serves**. -/
structure Serving where
  order : Order
  server : ProxyServer MediaServer

def line (text : Text) : Text := text ++ ['\n']

/-- The text on which the arguments are explained. -/
def helpText : Text :=
  (["Proxy AMP session requests to an RTSP media server", "",
    "Usage: amp-proxy [OPTIONS] --rtsp-url <RTSP_URL>", "",
    "Options:",
    "  -l, --listen <LISTEN>          AMP control address (host:port) [default: 0.0.0.0:7770]",
    "      --rtsp-url <RTSP_URL>      Base RTSP URL of the backend media server",
    "      --relay-host <RELAY_HOST>  Local host the UDP relays bind to [default: 127.0.0.1]",
    "      --min-port <MIN_PORT>      Lowest relay port [default: 20000]",
    "      --max-port <MAX_PORT>      Highest relay port [default: 50000]",
    "      --log-dir <LOG_DIR>        Directory for per-session RTSP transcripts",
    "      --load-stats               Count LOAD packets on the control port",
    "  -h, --help                     Print help"].map String.toList).flatMap line

/-- The text on which a misuse is reported. -/
def misuseText : Text :=
  (["error: the arguments are not understood", "",
    "Usage: amp-proxy [OPTIONS] --rtsp-url <RTSP_URL>", "",
    "For more information, try '--help'."].map String.toList).flatMap line

/-- The report of a program that does not run. -/
def Halt.report : Halt → Report
  | .misuse => ⟨2, [], misuseText⟩
  | .help => ⟨0, helpText, []⟩

/-- Sets the proxy server up and starts it; a fault comes with what was being done. -/
def begin (order : Order) (host : Host) (media : MediaServer) : Except Report Serving :=
  let failed (what : String) (fault : Fault) : Report :=
    ⟨0, [], line ("Failed to ".toList ++ what.toList ++ ": ".toList ++ fault.message)⟩
  match ProxyServer.create order.settings host media with
  | .error fault => .error (failed "create proxy" fault)
  | .ok server =>
    match if order.loadStats then server.countLoad else .ok server with
    | .error fault => .error (failed "enable load stats" fault)
    | .ok server =>
      match server.start with
      | .error fault => .error (failed "start server" fault)
      | .ok server => .ok ⟨order, server⟩

namespace Serving

/-- The announcement of a server that serves. -/
def banner (s : Serving) : Text :=
  line ("AMP proxy on ".toList ++ s.server.control.address.render ++ " -> ".toList
    ++ s.order.settings.url ++ ", press Enter to stop".toList)

/-- The complaint about an entered line that is no text. -/
def complaint (entered : Bytes) : Text :=
  match Text.ofBytes? entered with
  | some _ => []
  | none => line "Failed to read stdin: stream did not contain valid UTF-8".toList

/-- The counts of load over some time. -/
def summary (load : Control.LoadCount) (elapsed : Elapsed) : Text :=
  line ("Load: ".toList ++ Text.ofNat load.received.total.toNat ++ " received (".toList
    ++ Text.ofRate (ratePerSecond load.received.total elapsed) ++ "/s), ".toList
    ++ Text.ofNat load.missed.total.toNat ++ " missed".toList)

/-- Shuts down. The text is what is printed last. -/
def shutDown (s : Serving) (elapsed : Elapsed) : Text :=
  match s.server.stop.load with
  | some load => summary load elapsed
  | none => []

end Serving

/-- The first line of some octets, with its line feed. -/
def firstLine : Bytes → Bytes
  | [] => []
  | b :: rest => if b = 10 then [b] else b :: firstLine rest

/-- **Runs the program** on arguments and input, as long as nobody but the terminal speaks to it. -/
def run (arguments : List Text) (input : Bytes) (elapsed : Elapsed) : Report :=
  match readOrder arguments with
  | .error halt => halt.report
  | .ok order =>
    match begin order .idle (.idle none [] false []) with
    | .error report => report
    | .ok serving =>
      ⟨0, serving.banner ++ serving.shutDown elapsed, Serving.complaint (firstLine input)⟩

end MediaProxy.CommandLine
