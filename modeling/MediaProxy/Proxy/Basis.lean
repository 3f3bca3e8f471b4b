import MediaProxy.Net.HostPort
import MediaProxy.Net.Resolve
import MediaProxy.Proxy.Settings
import MediaProxy.Url.Media

/-!
# Checked settings

A proxy can be built when its settings name an `rtsp` URL with a host and a relay host that
resolves. What is kept of them is their **basis**: the URL as a URL and the relay host as an
address. The port range is kept as given; an empty range is no fault before somebody asks for a
port.
-/

namespace MediaProxy

/-- The **checked settings** of a proxy. -/
structure Basis where
  /-- The URL that media names are put below. -/
  url : Url
  /-- The address that relays receive on. -/
  relayHost : Text
  lowest : UInt16
  highest : UInt16
  logDir : Option Text
  deriving DecidableEq, Repr

namespace Basis

def scheme : Text := "rtsp".toList

def readUrl (text : Text) : Except Fault Url := do
  let url ← (Url.parse text).mapError fun reason => .badUrl text reason.message
  if url.scheme ≠ scheme then
    throw (.badUrl text ("expected rtsp scheme, got ".toList ++ url.scheme))
  if url.host? = none then throw (.badUrl text "missing host".toList)
  return url

/-- The basis of some settings. The URL is looked at before the relay host is. -/
def ofSettings (s : Settings) : Except Fault Basis := do
  let url ← readUrl s.url
  let relayHost ← resolve (joinHostPort s.relayHost 0)
  return ⟨url, relayHost.ip.render, s.lowest, s.highest, s.logDir⟩

/-- The name of the transcript of a session. -/
def logName (port : UInt16) (media : Text) : Text :=
  "amp-proxy-".toList ++ Text.ofNat port.toNat ++ "-".toList ++ Text.replace (· = '/') '_' media
    ++ ".log".toList

/-- A name within a directory. -/
def within (dir name : Text) : Text :=
  if dir = [] ∨ dir.getLast? = some '/' then dir ++ name else dir ++ '/' :: name

/-- Where the transcript of a session goes, if there is to be one. -/
def logPath (b : Basis) (port : UInt16) (media : Text) : Option Text :=
  b.logDir.map fun dir => within dir (logName port media)

end Basis

end MediaProxy
