import MediaProxy.Text.Basic

/-!
# Observers of completion

Somebody who has to know when pieces of work are done has two instruments. A **tracker** counts
the registrations that are still open and is idle when none is. A **signal** belongs to one
registration and delivers at most once: that the work is done, or, if the work disappears without
ever being done, that nothing will come any more.

`Observers` holds all trackers and all signals; each is named by its position, and positions are
given out in order and never again.
-/

namespace MediaProxy

/-- The position of a tracker among the trackers. -/
abbrev TrackerId := Nat

/-- The position of a signal among the signals. -/
abbrev SignalId := Nat

/-- The state of a **signal**. -/
inductive Signal where
  /-- The work is not done yet. -/
  | silent
  /-- The work is done, and nobody has taken notice. -/
  | raised
  /-- Nothing will come any more: the notice has been taken, or the work has disappeared. -/
  | closed
  deriving DecidableEq, Repr

/-- Whether a wait for a signal would return: there is a notice to take, or none will come. -/
def Signal.isReady : Signal → Bool
  | .silent => false
  | _ => true

/-- All **trackers**, by their open registrations, and all **signals**. -/
structure Observers where
  pending : List Nat
  signals : List Signal
  deriving DecidableEq, Repr

namespace Observers

def empty : Observers := ⟨[], []⟩

def newTracker (o : Observers) : TrackerId × Observers :=
  (o.pending.length, { o with pending := o.pending ++ [0] })

def newSignal (o : Observers) (s : Signal) : SignalId × Observers :=
  (o.signals.length, { o with signals := o.signals ++ [s] })

/-- The open registrations of a tracker. -/
def pendingOf (o : Observers) (t : TrackerId) : Nat := o.pending.getD t 0

/-- Whether everything registered with a tracker is done. -/
def isIdle (o : Observers) (t : TrackerId) : Bool := o.pendingOf t = 0

/-- One more open registration. -/
def add (o : Observers) (t : TrackerId) : Observers := { o with pending := o.pending.modify t (· + 1) }

/-- One open registration less; a tracker without any keeps none. -/
def done (o : Observers) (t : TrackerId) : Observers := { o with pending := o.pending.modify t (· - 1) }

/-- The state of a signal. A signal that was never given out is closed. -/
def signal (o : Observers) (s : SignalId) : Signal := o.signals.getD s .closed

/-- A signal delivers: if it was silent, there is a notice now. -/
def raise (o : Observers) (s : SignalId) : Observers :=
  { o with signals := o.signals.modify s fun
      | .silent => .raised
      | other => other }

/-- The work behind a signal disappears: if the signal was silent, nothing will come. -/
def abandon (o : Observers) (s : SignalId) : Observers :=
  { o with signals := o.signals.modify s fun
      | .silent => .closed
      | other => other }

/-- Takes the notice of a signal, if there is one. Either way the state before is the answer. -/
def take (o : Observers) (s : SignalId) : Signal × Observers :=
  (o.signal s,
    { o with signals := o.signals.modify s fun
        | .raised => .closed
        | other => other })

/-- The positions in a list of signals at which a wait for any of them could return. -/
def readyAt (o : Observers) (signals : List SignalId) : List Nat :=
  (List.range signals.length).filter fun i => (signals[i]?.map o.signal).any Signal.isReady

end Observers

end MediaProxy
