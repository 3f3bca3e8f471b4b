import MediaProxy.Text.Basic

/-!
# Settings

What a proxy has to be told: where its control socket listens, which media server it stands in
front of, the local host and the port range of its relays, and where transcripts of the
conversations with the media server go, if anywhere.
-/

namespace MediaProxy

/-- The lowest relay port that is tried unless the settings say otherwise. -/
def lowestRelayPort : UInt16 := 20000

/-- The highest relay port that is tried unless the settings say otherwise. -/
def highestRelayPort : UInt16 := 50000

/-- The **settings** of one proxy. -/
structure Settings where
  /-- Where the control socket listens. -/
  listen : Text
  /-- The URL under which the media server keeps its media. -/
  url : Text
  /-- The local host that relays receive on. -/
  relayHost : Text
  /-- The lowest relay port. -/
  lowest : UInt16 := lowestRelayPort
  /-- The highest relay port. -/
  highest : UInt16 := highestRelayPort
  /-- The directory of transcripts. -/
  logDir : Option Text := none
  deriving DecidableEq, Repr

end MediaProxy
