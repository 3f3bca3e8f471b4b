import MediaProxy.Registry.Stop

/-!
# Rehearsed sessions

Sessions that do nothing but keep a record: the registry is tested with them, on its own, where the
proxy keeps its own sessions in it (`Session.contract`). Each one follows a
`Script`: how many workers it has, which of them are done from the beginning, which do not stop
when asked to, what its cleanup comes to, and whether its cleanup takes the session out of the
registry first. The record says how often each part of the contract was called upon.

One stop may be under way beside the other calls (`pending`). It returns as soon as the cleanup it
waits for is over, which is part of `settled`, and its reply is kept until somebody asks for it.
-/

namespace MediaProxy

/-- What a rehearsed session does. -/
structure Script where
  /-- How many workers it has. -/
  workers : Nat
  /-- Which of them go on when they are asked to stop. -/
  stubborn : List Nat
  /-- Which of them are done from the beginning. -/
  finished : List Nat
  /-- What its cleanup comes to. -/
  ending : Body
  /-- Whether its cleanup takes it out of the registry first. -/
  leaves : Bool
  deriving DecidableEq, Repr

/-- The **record** of a rehearsed session. -/
structure Performance where
  key : Text
  workers : List WorkerId
  ending : Body
  leaves : Bool
  starts : Nat
  cleanups : Nat
  /-- What taking itself out of the registry came to, the last time. -/
  left : Option Bool
  deriving DecidableEq, Repr

/-- The **stagehands**: what rehearsed sessions share beside their registry, as the proxy's sessions
share their `Floor`. It is their records, and for each worker whether it is stubborn and how often
it was asked to stop. -/
structure Stagehands where
  performances : List Performance
  stubborn : List Bool
  asked : List Nat
  deriving DecidableEq, Repr

namespace Stagehands

/-- The contract of rehearsed sessions. -/
def contract : Contract Text Stagehands where
  name := id
  workers world session := ((world.performances[session]?).map Performance.workers).getD []
  start session r := { r.world with
    performances := r.world.performances.modify session fun p => { p with starts := p.starts + 1 } }
  halt w _ world :=
    (!world.stubborn.getD w false, { world with asked := world.asked.modify w (· + 1) })
  cleanup session r :=
    match r.world.performances[session]? with
    | none => (.returns none, r)
    | some p =>
      let (left, r) : Option Bool × Registry Text Stagehands :=
        if p.leaves then
          let (was, r) := r.forget p.key session
          (some was, r)
        else (p.left, r)
      let p := { p with cleanups := p.cleanups + 1, left := left }
      (p.ending, { r with world := { r.world with performances := r.world.performances.set session p } })

end Stagehands

/-- A **rehearsal**: a registry of rehearsed sessions, with the one stop that a thread of its own
has under way beside it. -/
structure Rehearsal where
  registry : Registry Text Stagehands
  pending : Option (Registry.Stop × Option Registry.StopReply)

namespace Rehearsal

def start : Rehearsal := ⟨.empty ⟨[], [], []⟩, none⟩

/-- One more worker. -/
def hire (script : Script) (r : Registry Text Stagehands) (i : Nat) : Registry Text Stagehands :=
  let (_, r) := r.hire (if i ∈ script.finished then .finished else .fresh)
  { r with world :=
      { r.world with
        stubborn := r.world.stubborn ++ [decide (i ∈ script.stubborn)]
        asked := r.world.asked ++ [0] } }

/-- One more session, not registered yet. -/
def create (r : Rehearsal) (key : Text) (script : Script) : SessionId × Rehearsal :=
  let first := r.registry.latches.length
  let registry := (List.range script.workers).foldl (hire script) r.registry
  let performance : Performance :=
    ⟨key, (List.range script.workers).map (first + ·), script.ending, script.leaves, 0, 0, none⟩
  let world := registry.world
  (world.performances.length,
    { r with registry := { registry with world :=
        { world with performances := world.performances ++ [performance] } } })

/-- What follows a call: the steps that are due are taken, and the pending stop returns if it can.
-/
def settled (r : Rehearsal) : Rehearsal :=
  let registry := Registry.settle Stagehands.contract r.registry
  match r.pending with
  | some (stop, none) =>
    match Registry.finishStop stop registry with
    | some (reply, registry) => ⟨registry, some (stop, some reply)⟩
    | none => { r with registry := registry }
  | _ => { r with registry := registry }

def worker? (r : Rehearsal) (session worker : Nat) : Option WorkerId :=
  (r.registry.world.performances[session]?).bind fun p => p.workers[worker]?

def register (r : Rehearsal) (key : Text) (session : SessionId) : Except Fault Unit × Rehearsal :=
  match r.registry.register Stagehands.contract key session with
  | .error fault => (.error fault, r)
  | .ok registry => (.ok (), { r with registry := registry }.settled)

/-- A worker is done. The answer is whether that was news. -/
def finish (r : Rehearsal) (w : WorkerId) : Bool × Rehearsal :=
  let (news, registry) := r.registry.finish w
  (news, { r with registry := registry }.settled)

/-- A stop of the session under a key. -/
def stop (r : Rehearsal) (key : Text) : Option (Registry.StopReply × Rehearsal) :=
  (Registry.stopOne Stagehands.contract key r.registry).map fun (reply, registry) =>
    (reply, { r with registry := registry }.settled)

/-- Whether a session has a worker that is at work and does not stop when asked to. -/
def isStubborn (r : Rehearsal) (session : SessionId) : Bool :=
  (Stagehands.contract.workers r.registry.world session).any fun w =>
    r.registry.world.stubborn.getD w false && !r.registry.isFinished w

/-- A stop of every session. There is none while a session under some key is stubborn, whatever the
sessions before it come to. -/
def stopAll (r : Rehearsal) : Option (Except Text Nat × Rehearsal) :=
  if r.registry.keys.any fun key => (r.registry.lookup key).any r.isStubborn then none
  else
    (Registry.stopAll Stagehands.contract r.registry).map fun (reply, registry) =>
      (reply, { r with registry := registry }.settled)

/-- Begins a stop beside the other calls, if there is none and it is the one to trigger the end. -/
def beginStop (r : Rehearsal) (key : Text) : Option Rehearsal :=
  if r.pending.isSome then none
  else
    match Registry.beginStop Stagehands.contract key r.registry with
    | .ok (stop, registry) =>
      if stop.own then some (settled ⟨registry, some (stop, none)⟩) else none
    | .error _ => none

/-- The reply of the pending stop, once it has returned. -/
def join (r : Rehearsal) : Option (Registry.StopReply × Rehearsal) :=
  match r.pending with
  | some (_, some reply) => some (reply, { r with pending := none })
  | _ => none

end Rehearsal

end MediaProxy
