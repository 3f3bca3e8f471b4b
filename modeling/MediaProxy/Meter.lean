import MediaProxy.Text.Basic

/-!
# Meters

A meter adds up amounts until it is stopped: their sum, which wraps at sixty-four bits, and how
many there were. Relays meter the octets they pass on, the load counter meters packets.

Elapsed time is not kept here; a rate is asked for with the time it is over.
-/

namespace MediaProxy

/-- A named **total of amounts**, with their number. -/
structure Meter where
  name : Text
  total : UInt64
  samples : UInt64
  stopped : Bool
  deriving DecidableEq, Repr

namespace Meter

def named (name : Text) : Meter := ⟨name, 0, 0, false⟩

/-- One more amount. -/
def add (m : Meter) (amount : UInt64) : Meter :=
  { m with total := m.total + amount, samples := m.samples + 1 }

/-- One more amount, unless the meter is stopped. -/
def record (m : Meter) (amount : UInt64) : Meter := if m.stopped then m else m.add amount

def stop (m : Meter) : Meter := { m with stopped := true }

end Meter

/-- A length of time: whole seconds and the nanoseconds beyond them. -/
structure Elapsed where
  seconds : UInt64
  nanoseconds : UInt64
  deriving DecidableEq, Repr

/-- How many nanoseconds make a second. -/
def nanosecondsPerSecond : UInt64 := 1000000000

/-- The time that some seconds and nanoseconds make together, if its seconds can be counted. -/
def Elapsed.ofParts? (seconds nanoseconds : UInt64) : Option Elapsed :=
  let carried := seconds + nanoseconds / nanosecondsPerSecond
  if carried < seconds then none else some ⟨carried, nanoseconds % nanosecondsPerSecond⟩

def Elapsed.inSeconds (e : Elapsed) : Float := e.seconds.toFloat + e.nanoseconds.toFloat / 1e9

/-- The amount of a total that falls on one second; none when no time has passed. -/
def ratePerSecond (total : UInt64) (elapsed : Elapsed) : Float :=
  let seconds := elapsed.inSeconds
  if seconds ≤ 0.0 then 0.0 else total.toFloat / seconds

end MediaProxy
