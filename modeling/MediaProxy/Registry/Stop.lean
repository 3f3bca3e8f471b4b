import MediaProxy.Registry.Basic

/-!
# The end of sessions

An entry is brought to its end in two steps. It is **triggered**: its workers are asked to stop,
each once, in order. And when its tracker is idle it is **concluded**: the session is cleaned up and
what that came to is kept. An entry is due for the first step as soon as one of its workers is done,
without anybody asking; it is due for the second whenever it has been triggered and its tracker is
idle. `settle` takes the steps that are due until none is.

A **stop** asks for the end of the session under a key. Between its beginning and its return other
things may happen, so it comes in two halves: `beginStop` picks the entry and triggers it if nobody
has, `finishStop` returns when the cleanup is over and removes the entry that was picked. `stopOne`
is both with nothing in between. A stop that would have to wait for ever has no result here.
-/

namespace MediaProxy.Registry

variable {κ σ : Type} [DecidableEq κ]

def setStage (r : Registry κ σ) (e : EntryId) (stage : Stage) : Registry κ σ :=
  { r with entries := r.entries.modify e fun entry => { entry with stage := stage } }

def stage? (r : Registry κ σ) (e : EntryId) : Option Stage := (r.entries[e]?).map Entry.stage

def halt (c : Contract κ σ) (r : Registry κ σ) (w : WorkerId) : Registry κ σ :=
  let (ends, world) := c.halt w (r.isFinished w) r.world
  let r := { r with world := world }
  if ends then (r.finish w).2 else r

/-- Begins the end of an entry: every worker is asked to stop. -/
def trigger (c : Contract κ σ) (e : EntryId) (r : Registry κ σ) : Registry κ σ :=
  match r.entries[e]? with
  | none => r
  | some entry => (c.workers r.world entry.session).foldl (halt c) (r.setStage e .stopping)

/-- Completes the end of an entry: its session is cleaned up. -/
def conclude (c : Contract κ σ) (e : EntryId) (r : Registry κ σ) : Registry κ σ :=
  match r.entries[e]? with
  | none => r
  | some entry =>
    let (body, r) := c.cleanup entry.session r
    r.setStage e (.concluded body)

/-- Whether a step of an entry is due. -/
def isDue (r : Registry κ σ) (entry : Entry κ) : Bool :=
  match entry.stage with
  | .armed => entry.signals.any fun s => (r.observers.signal s).isReady
  | .stopping => r.observers.isIdle entry.tracker
  | .concluded _ => false

/-- Takes the next step of an entry. -/
def proceed (c : Contract κ σ) (e : EntryId) (r : Registry κ σ) : Registry κ σ :=
  match r.stage? e with
  | some .armed => trigger c e r
  | some .stopping => conclude c e r
  | _ => r

/-- Takes one step that is due, of the oldest entry that has one. -/
def advance (c : Contract κ σ) (r : Registry κ σ) : Registry κ σ :=
  match r.entries.findIdx? r.isDue with
  | none => r
  | some e => proceed c e r

/-- Takes some number of steps that are due. -/
def advances (c : Contract κ σ) : Nat → Registry κ σ → Registry κ σ
  | 0, r => r
  | n + 1, r => advances c n (advance c r)

/-- Takes the steps that are due. Each entry has two steps before it, so there are no more than
twice as many steps as entries. -/
def settle (c : Contract κ σ) (r : Registry κ σ) : Registry κ σ :=
  advances c (2 * r.entries.length) r

/-! ## Stopping one session -/

/-- A **stop** under way: the entry that it picked, and whether it was the one to trigger it. -/
structure Stop where
  entry : EntryId
  own : Bool
  deriving DecidableEq, Repr

/-- How a stop returns. -/
inductive StopReply where
  /-- The session was stopped and cleaned up. -/
  | stopped
  /-- The stop failed. -/
  | failed (cause : Fault)
  /-- The cleanup broke down, and the stop with it. -/
  | brokeDown (message : Text)
  deriving DecidableEq, Repr

/-- The fault of a stop that came after the session had ended by itself. -/
def endedEarly (outcome : Outcome) : Fault := .stoppedEarly (outcome.getD "(no error)".toList)

/-- What a stop says about a cleanup, its own or somebody else's. -/
def Stop.reply (s : Stop) (body : Body) : StopReply :=
  if s.own then
    match body with
    | .returns none => .stopped
    | .returns (some reason) => .failed (.cleanup reason)
    | .breaksDown message => .brokeDown message
  else .failed (endedEarly body.outcome)

/-- A stop **reaches** an entry: the entry is triggered if nobody has done that. -/
def reach (c : Contract κ σ) (e : EntryId) (r : Registry κ σ) : Stop × Registry κ σ :=
  if r.stage? e = some .armed then (⟨e, true⟩, trigger c e r) else (⟨e, false⟩, r)

/-- The first half of a stop: picks the entry under the key and reaches it. -/
def beginStop (c : Contract κ σ) (key : κ) (r : Registry κ σ) : Except Fault (Stop × Registry κ σ) :=
  match r.boundTo? key with
  | none => .error (.sessionUnknown (c.name key))
  | some e => .ok (reach c e r)

/-- Removes an entry from under its key. -/
def remove (r : Registry κ σ) (e : EntryId) : Registry κ σ :=
  match r.entries[e]? with
  | none => r
  | some entry => r.unbind entry.key e

/-- The second half of a stop: returns once the cleanup is over, and removes the entry unless the
stop breaks down. -/
def finishStop (s : Stop) (r : Registry κ σ) : Option (StopReply × Registry κ σ) :=
  match r.stage? s.entry with
  | some (.concluded body) =>
    match s.reply body with
    | .brokeDown message => some (.brokeDown message, r)
    | reply => some (reply, r.remove s.entry)
  | _ => none

/-- A stop as a whole. There is no result when it would wait for ever. -/
def stopOne (c : Contract κ σ) (key : κ) (r : Registry κ σ) : Option (StopReply × Registry κ σ) :=
  match beginStop c key r with
  | .error fault => some (.failed fault, r)
  | .ok (stop, r) => finishStop stop (settle c r)

/-! ## Stopping every session -/

/-- Brings some entries to their end, one after another, until the cleanup of one breaks down. -/
def stopEach (c : Contract κ σ) : List EntryId → Registry κ σ → Option (Except Text Unit × Registry κ σ)
  | [], r => some (.ok (), r)
  | e :: rest, r =>
    let (stop, r) := reach c e r
    let r := settle c r
    match r.stage? e with
    | some (.concluded body) =>
      match stop.reply body with
      | .brokeDown message => some (.error message, r)
      | _ => stopEach c rest r
    | _ => none

/-- Stops every session that is under a key and removes them. The answer is how many there were, or
the message of the cleanup that broke down; then none is removed. -/
def stopAll (c : Contract κ σ) (r : Registry κ σ) : Option (Except Text Nat × Registry κ σ) :=
  let chosen := r.bound.map Prod.snd
  match stopEach c chosen r with
  | none => none
  | some (.error message, r) => some (.error message, r)
  | some (.ok (), r) => some (.ok chosen.length, chosen.foldl remove r)

end MediaProxy.Registry
