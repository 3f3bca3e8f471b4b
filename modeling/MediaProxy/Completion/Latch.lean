import MediaProxy.Completion.Observers

/-!
# Latches

A **latch** belongs to a piece of work and says whether it is done. Observers register with it at
any time. Registering with a latch that is done is possible and changes no count: the tracker
goes up and down again, and the signal delivers at once. A latch is done once and stays done.

A latch may also be dropped without ever being done. Then its signals close, but no tracker
learns of it: what was registered stays open for good.
-/

namespace MediaProxy

/-- One registration with a latch: who counts it, and the signal that it gave out, unless nobody
holds that signal. -/
structure Registration where
  tracker : TrackerId
  signal : Option SignalId
  deriving DecidableEq, Repr

/-- Whether a piece of work is **done**, and who is to be told when it is. -/
structure Latch where
  isDone : Bool
  registrations : List Registration
  deriving DecidableEq, Repr

namespace Latch

/-- The latch of work that has just begun. -/
def fresh : Latch := ⟨false, []⟩

/-- The latch of work that was done before anybody looked. -/
def finished : Latch := ⟨true, []⟩

/-- Tells the observers of one registration that the work is done. -/
def notify (o : Observers) (r : Registration) : Observers :=
  match r.signal with
  | some s => (o.done r.tracker).raise s
  | none => o.done r.tracker

/-- Registers a tracker. The signal of the registration is new and the caller holds it. -/
def observe (l : Latch) (t : TrackerId) (o : Observers) : SignalId × Latch × Observers :=
  let o := o.add t
  if l.isDone then
    let (s, o) := (o.done t).newSignal .raised
    (s, l, o)
  else
    let (s, o) := o.newSignal .silent
    (s, { l with registrations := l.registrations ++ [⟨t, some s⟩] }, o)

/-- Registers a tracker and lets the signal go. -/
def observeUnheard (l : Latch) (t : TrackerId) (o : Observers) : Latch × Observers :=
  let o := o.add t
  if l.isDone then (l, o.done t)
  else ({ l with registrations := l.registrations ++ [⟨t, none⟩] }, o)

/-- The work is done: every registration is told, once. The answer is whether it was news. -/
def finish (l : Latch) (o : Observers) : Bool × Latch × Observers :=
  if l.isDone then (false, l, o)
  else (true, finished, l.registrations.foldl notify o)

/-- The latch disappears: its signals close. -/
def drop (l : Latch) (o : Observers) : Observers :=
  (l.registrations.filterMap Registration.signal).foldl Observers.abandon o

end Latch

end MediaProxy
