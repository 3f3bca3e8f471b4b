import MediaProxy.Completion.Latch
import MediaProxy.Rtsp.Client

/-!
# Observed clients

A client together with the latch that its end completes. The latch is completed by whatever ends
the session, and by that only; it is completed once, however often the client is stopped and
whatever the server goes on to send.
-/

namespace MediaProxy.Rtsp

/-- A client with its **latch** and the observers that the latch tells. -/
structure Observed where
  client : Client
  latch : Latch
  observers : Observers
  deriving DecidableEq, Repr

namespace Observed

/-- Completes the latch if the session is over. -/
def settle (o : Observed) : Observed :=
  if o.client.life = .finished then
    let (_, latch, observers) := o.latch.finish o.observers
    { o with latch := latch, observers := observers }
  else o

/-- A client that nobody has observed yet. -/
def start (client : Client) (observers : Observers) : Observed := settle ⟨client, .fresh, observers⟩

/-- Registers a tracker with the end of the session. -/
def observe (t : TrackerId) (o : Observed) : SignalId × Observed :=
  let (signal, latch, observers) := o.latch.observe t o.observers
  (signal, { o with latch := latch, observers := observers })

/-- The server sends something. -/
def receive (sent : Bytes) (o : Observed) (t : Transcripts) : Observed × Transcripts :=
  let (client, t) := o.client.receive sent t
  ({ o with client := client }.settle, t)

/-- The server is let go. -/
def release (o : Observed) (t : Transcripts) : Observed × Transcripts :=
  let (client, t) := o.client.release t
  ({ o with client := client }.settle, t)

/-- The client is stopped. -/
def stop (released : Bool) (o : Observed) (t : Transcripts) : Observed × Transcripts :=
  let (client, t) := o.client.stop released t
  ({ o with client := client }.settle, t)

end Observed

end MediaProxy.Rtsp
