import MediaProxy.Gate.Basic

/-!
# Callers of a gate

Any number of callers may fire a gate, wait for it, or ask for its error, at any time. Each call
is a small machine of its own, and `Callers.advance` moves one of them by one indivisible step:

- a fire that finds the gate armed takes it and goes on to run its cleanup;
- a running cleanup ends, and its outcome is published in the same step;
- a fire or a wait that finds the gate taken blocks, and returns once the outcome is there;
- a question for the error never blocks.

An interleaving is a list of caller numbers, advanced one after another (`Callers.run`). A caller
that cannot move keeps its place: being scheduled while blocked changes nothing.
-/

namespace MediaProxy.Gate

/-- What a caller wants of a gate. -/
inductive Call where
  /-- Run this cleanup unless somebody else has. -/
  | fire (body : Body)
  /-- Wait until the cleanup is over. -/
  | wait
  /-- Ask for the error, without waiting. -/
  | error
  deriving DecidableEq, Repr

/-- What a caller gets. -/
inductive Reply where
  /-- The caller's own cleanup ran, with this outcome. -/
  | executed (outcome : Outcome)
  /-- The caller's own cleanup ran and broke down with this message. -/
  | brokeDown (message : Text)
  /-- Somebody else's cleanup ran, with this outcome. -/
  | alreadyFired (outcome : Outcome)
  /-- The wait is over, with this outcome. -/
  | waited (outcome : Outcome)
  /-- The error, as far as it is known. -/
  | error (outcome : Outcome)
  deriving DecidableEq, Repr

/-- Where a caller stands. -/
inductive Stage where
  /-- The call is made and has done nothing yet. -/
  | called (call : Call)
  /-- The caller's cleanup is running. -/
  | running (body : Body)
  /-- The caller waits to learn the outcome of somebody else's cleanup. -/
  | blocked (call : Call)
  /-- The call has returned. -/
  | returned (reply : Reply)
  deriving DecidableEq, Repr

/-- A gate with its **callers**, in the order of their calls. -/
structure Callers where
  gate : Gate
  stages : List Stage
  deriving DecidableEq, Repr

namespace Callers

def start : Callers := ⟨.armed, []⟩

/-- The reply to a fire whose own cleanup has ended. -/
def ownReply : Body → Reply
  | .returns outcome => .executed outcome
  | .breaksDown message => .brokeDown message

/-- The reply to a call that learns the outcome of a cleanup which is not its own. -/
def learn (outcome : Outcome) : Call → Reply
  | .fire _ => .alreadyFired outcome
  | .wait => .waited outcome
  | .error => .error outcome

/-- One step of one caller: the gate and the caller's stage after it, or nothing when the caller
cannot move. -/
def move (gate : Gate) : Stage → Option (Gate × Stage)
  | .called (.fire body) =>
    match gate with
    | .armed => some (.firing, .running body)
    | _ => some (gate, .blocked (.fire body))
  | .called .wait => some (gate, .blocked .wait)
  | .called .error => some (gate, .returned (.error gate.error))
  | .running body => some (.fired body.outcome, .returned (ownReply body))
  | .blocked call =>
    match gate with
    | .fired outcome => some (gate, .returned (learn outcome call))
    | _ => none
  | .returned _ => none

/-- One step of the caller of a number. -/
def advance (c : Callers) (caller : Nat) : Callers :=
  match c.stages[caller]? with
  | none => c
  | some stage =>
    match move c.gate stage with
    | none => c
    | some (gate, next) => ⟨gate, c.stages.set caller next⟩

/-- The steps of some callers, one after another. -/
def run (c : Callers) (order : List Nat) : Callers := order.foldl advance c

/-- One more caller, who has done nothing yet. -/
def enter (c : Callers) (call : Call) : Callers := { c with stages := c.stages ++ [.called call] }

/-- The caller whose cleanup is running, if there is one. -/
def runner? (c : Callers) : Option Nat :=
  c.stages.findIdx? fun
    | .running _ => true
    | _ => false

/-- The reply of a caller that has returned. -/
def replyOf? (c : Callers) (caller : Nat) : Option Reply :=
  match c.stages[caller]? with
  | some (.returned reply) => some reply
  | _ => none

/-- How many callers have got as far as running their cleanup. -/
def bodiesRun (c : Callers) : Nat :=
  c.stages.countP fun
    | .running _ | .returned (.executed _) | .returned (.brokeDown _) => true
    | _ => false

/-- The callers that are blocked, by number. -/
def blockedCallers (c : Callers) : List Nat :=
  (List.range c.stages.length).filter fun i =>
    match c.stages[i]? with
    | some (.blocked _) => true
    | _ => false

/-- A new caller makes its call and goes on as far as it can, nobody else moving. -/
def callAlone (c : Callers) (call : Call) : Callers :=
  (c.enter call).run [c.stages.length, c.stages.length]

/-- A new caller makes its call and goes one step. -/
def callOnce (c : Callers) (call : Call) : Callers := (c.enter call).advance c.stages.length

/-- The cleanup that is running ends, and everybody who is blocked by it returns. -/
def release (c : Callers) : Callers := c.run (c.runner?.toList ++ c.blockedCallers)

end Callers

end MediaProxy.Gate
