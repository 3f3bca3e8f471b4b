import MediaProxy.Completion.Latch

/-!
# A board of latches

Several latches over one set of observers, named by position. A latch that was dropped leaves a
gap, so that the others keep their names.

A wait for any of several signals returns when one of them is ready, and takes the notice of that
one only. Which one it is when several are ready is open, so `WaitAny` is a relation: it holds of
every position at which the wait may return. `waitAny` is the case that leaves no choice.
-/

namespace MediaProxy

/-- **Latches** by position, with their observers. -/
structure Board where
  latches : List (Option Latch)
  observers : Observers
  deriving DecidableEq, Repr

/-- What a wait for any of several signals comes to. -/
inductive AnyWait where
  /-- There is nothing to wait for. -/
  | nothing
  /-- No signal is ready. -/
  | blocks
  /-- The signal at this position is the only one that is ready. -/
  | returns (position : Nat)
  /-- Several signals are ready. -/
  | undecided
  deriving DecidableEq, Repr

namespace Board

/-- Some fresh latches and some idle trackers. -/
def start (latches trackers : Nat) : Board :=
  ⟨List.replicate latches (some .fresh), ⟨List.replicate trackers 0, []⟩⟩

/-- The latch of a name, unless it was dropped or never was. -/
def latch? (b : Board) (i : Nat) : Option Latch := (b.latches[i]?).join

/-- The board with another latch under a name. -/
def setLatch (b : Board) (i : Nat) (l : Latch) : Board := { b with latches := b.latches.set i (some l) }

/-- Registers a tracker with a latch. -/
def observe (b : Board) (i : Nat) (t : TrackerId) : Option (SignalId × Board) :=
  (b.latch? i).map fun l =>
    let (s, l, o) := l.observe t b.observers
    (s, { b.setLatch i l with observers := o })

/-- Registers a tracker with a latch whose signal nobody will look at. -/
def observeUnheard (b : Board) (i : Nat) (t : TrackerId) : Board :=
  match b.latch? i with
  | none => b
  | some l =>
    let (l, o) := l.observeUnheard t b.observers
    { b.setLatch i l with observers := o }

/-- Registers a tracker with several latches, skipping those that are gone. -/
def observeAll (b : Board) (t : TrackerId) : List Nat → List SignalId × Board
  | [] => ([], b)
  | i :: rest =>
    match b.observe i t with
    | none => b.observeAll t rest
    | some (s, b) =>
      let (more, b) := b.observeAll t rest
      (s :: more, b)

/-- The work of a latch is done. The answer is whether that was news. -/
def finish (b : Board) (i : Nat) : Option (Bool × Board) :=
  (b.latch? i).map fun l =>
    let (news, l, o) := l.finish b.observers
    (news, { b.setLatch i l with observers := o })

def finishAll (b : Board) (latches : List Nat) : Board :=
  latches.foldl (fun b i => ((b.finish i).map Prod.snd).getD b) b

/-- A latch disappears. -/
def drop (b : Board) (i : Nat) : Option Board :=
  (b.latch? i).map fun l => ⟨b.latches.set i none, l.drop b.observers⟩

/-- A wait for any of some signals may return at a position, and leaves the board so. -/
def WaitAny (b : Board) (signals : List SignalId) (position : Nat) (after : Board) : Prop :=
  ∃ s, signals[position]? = some s ∧ (b.observers.signal s).isReady = true ∧
    after = { b with observers := (b.observers.take s).2 }

/-- What a wait comes to, by the positions that are ready. -/
def judge (waitedFor : Nat) (ready : List Nat) : AnyWait :=
  if waitedFor = 0 then .nothing
  else
    match ready with
    | [] => .blocks
    | [i] => .returns i
    | _ => .undecided

/-- A wait for any of some signals: it takes a notice only when it returns without a choice. -/
def waitAny (b : Board) (signals : List SignalId) : AnyWait × Board :=
  match judge signals.length (b.observers.readyAt signals) with
  | .returns i =>
    match signals[i]? with
    | some s => (.returns i, { b with observers := (b.observers.take s).2 })
    | none => (.returns i, b)
  | other => (other, b)

/-- Registers a tracker with several latches and waits for any of them; the signals are let go
when the wait returns. Nothing is registered by a wait that does not return or leaves a choice. -/
def waitForAny (b : Board) (t : TrackerId) (latches : List Nat) : AnyWait × Board :=
  let present := latches.filter fun i => (b.latch? i).isSome
  let ready := (List.range present.length).filter fun k =>
    ((present[k]?.bind b.latch?).map Latch.isDone).getD false
  match judge present.length ready with
  | .returns i => (.returns i, present.foldl (fun b i => b.observeUnheard i t) b)
  | other => (other, b)

end Board

end MediaProxy
