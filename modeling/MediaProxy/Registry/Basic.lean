import MediaProxy.Completion.Latch
import MediaProxy.Fault
import MediaProxy.Gate.Basic

/-!
# The session registry

Sessions are kept under keys, at most one to a key. A session has **workers**; when one of them is
done the session has to end, and it ends by the same sequence whoever asks for it: every worker
is asked to stop, all of them are awaited, and the session is cleaned up once.

For each registration there is an **entry**. It is made when the session is registered and is never
unmade: removing it from under its key (`unbind`, `forget`) leaves it where it is, since whoever
waits for its workers still does. An entry has a tracker that counts the workers still at work, a
signal from each worker, and a stage, of which its gate is the view that others have.

What a session is, how it starts and how it is cleaned up is no matter of the registry. That is a
`Contract` over some state of the world, and the registry only says when each part of it happens.
A cleanup may call the registry itself, so it acts on the registry and not on the world alone.
-/

namespace MediaProxy

/-- The position of a worker among the workers. -/
abbrev WorkerId := Nat

/-- The number of a session in the world. -/
abbrev SessionId := Nat

/-- The position of an entry among the entries. -/
abbrev EntryId := Nat

/-- How far the end of a session has come. -/
inductive Stage where
  /-- Nobody has asked for it. -/
  | armed
  /-- Its workers have been asked to stop and are awaited. -/
  | stopping
  /-- Its cleanup is over and came to this. -/
  | concluded (body : Body)
  deriving DecidableEq, Repr

def Stage.gate : Stage → Gate
  | .armed => .armed
  | .stopping => .firing
  | .concluded body => .fired body.outcome

/-- One **registration**: a session under a key, with what the registry keeps on it. -/
structure Entry (κ : Type) where
  key : κ
  session : SessionId
  tracker : TrackerId
  signals : List SignalId
  stage : Stage
  deriving DecidableEq, Repr

/-- **Sessions under keys**, with their workers, in a world. -/
structure Registry (κ σ : Type) where
  /-- Every entry that was ever made, in the order of registration. -/
  entries : List (Entry κ)
  /-- The entries that are under a key now. -/
  bound : List (κ × EntryId)
  /-- The latch of each worker. -/
  latches : List Latch
  observers : Observers
  world : σ

/-- What a **session** undertakes. -/
structure Contract (κ σ : Type) where
  /-- The text of a key. -/
  name : κ → Text
  /-- The workers of a session. -/
  workers : σ → SessionId → List WorkerId
  /-- What starting a session does. It may look at the registry, where the session is by then. -/
  start : SessionId → Registry κ σ → σ
  /-- What asking a worker to stop does, given whether it is done already, and whether the worker
  is done by that. -/
  halt : WorkerId → Bool → σ → Bool × σ
  /-- What cleaning a session up does, and what it comes to. -/
  cleanup : SessionId → Registry κ σ → Body × Registry κ σ

namespace Registry

variable {κ σ : Type}

def empty (world : σ) : Registry κ σ := ⟨[], [], [], .empty, world⟩

/-- One more worker. -/
def hire (r : Registry κ σ) (latch : Latch) : WorkerId × Registry κ σ :=
  (r.latches.length, { r with latches := r.latches ++ [latch] })

def isFinished (r : Registry κ σ) (w : WorkerId) : Bool := (r.latches[w]?).any Latch.isDone

/-- A worker is done. The answer is whether that was news. -/
def finish (r : Registry κ σ) (w : WorkerId) : Bool × Registry κ σ :=
  match r.latches[w]? with
  | none => (false, r)
  | some latch =>
    let (news, latch, observers) := latch.finish r.observers
    (news, { r with latches := r.latches.set w latch, observers := observers })

def observe (r : Registry κ σ) (w : WorkerId) (t : TrackerId) : List SignalId × Registry κ σ :=
  match r.latches[w]? with
  | none => ([], r)
  | some latch =>
    let (signal, latch, observers) := latch.observe t r.observers
    ([signal], { r with latches := r.latches.set w latch, observers := observers })

/-- Registers a tracker with some workers, one after another. -/
def observeAll (r : Registry κ σ) (t : TrackerId) : List WorkerId → List SignalId × Registry κ σ
  | [] => ([], r)
  | w :: rest =>
    let (signals, r) := r.observe w t
    let (more, r) := r.observeAll t rest
    (signals ++ more, r)

variable [DecidableEq κ]

def boundTo? (r : Registry κ σ) (key : κ) : Option EntryId := r.bound.lookup key

def entry? (r : Registry κ σ) (key : κ) : Option (Entry κ) :=
  (r.boundTo? key).bind fun e => r.entries[e]?

def lookup (r : Registry κ σ) (key : κ) : Option SessionId := (r.entry? key).map Entry.session

def keys (r : Registry κ σ) : List κ := r.bound.map Prod.fst

def size (r : Registry κ σ) : Nat := r.bound.length

/-- Removes an entry from under a key, unless another has come there. -/
def unbind (r : Registry κ σ) (key : κ) (e : EntryId) : Registry κ σ :=
  { r with bound := r.bound.filter (· ≠ (key, e)) }

/-- Removes what is under a key, but only if it is a given session. The answer is whether it was. -/
def forget (r : Registry κ σ) (key : κ) (session : SessionId) : Bool × Registry κ σ :=
  if r.lookup key = some session then (true, { r with bound := r.bound.filter (·.1 ≠ key) })
  else (false, r)

/-- Puts a session under a key and starts it. Its workers are observed before it starts, so that
none of them can be done unnoticed. -/
def register (c : Contract κ σ) (key : κ) (session : SessionId) (r : Registry κ σ) :
    Except Fault (Registry κ σ) :=
  if (r.boundTo? key).isSome then .error (.sessionExists (c.name key))
  else
    let (tracker, observers) := r.observers.newTracker
    let (signals, r) := { r with observers := observers }.observeAll tracker (c.workers r.world session)
    let r : Registry κ σ := { r with
      entries := r.entries ++ [⟨key, session, tracker, signals, .armed⟩]
      bound := r.bound ++ [(key, r.entries.length)] }
    .ok { r with world := c.start session r }

end Registry

end MediaProxy
