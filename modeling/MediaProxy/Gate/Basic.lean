import MediaProxy.Text.Basic

/-!
# The stop gate

A session is cleaned up once, whoever asks for it first. A **gate** is what decides who that is:
it is armed until somebody begins to fire it, firing while that caller's cleanup runs, and fired
from then on, with the outcome that the cleanup left. The outcome is the text of an error, or
nothing; a cleanup that breaks down leaves a text of its own (`brokeDown`).

Who calls the gate, and in which order, is the matter of `Gate.Callers`.
-/

namespace MediaProxy

/-- What a cleanup leaves behind: the text of an error, if there was one. -/
abbrev Outcome := Option Text

/-- The outcome of a cleanup that breaks down. -/
def brokeDown : Text := "cleanup panicked".toList

/-- What a **cleanup** comes to. -/
inductive Body where
  /-- It returns with an outcome. -/
  | returns (outcome : Outcome)
  /-- It breaks down with a message. -/
  | breaksDown (message : Text)
  deriving DecidableEq, Repr

/-- The outcome that a cleanup leaves behind. -/
def Body.outcome : Body → Outcome
  | .returns outcome => outcome
  | .breaksDown _ => some brokeDown

/-- The state of a **gate**. -/
inductive Gate where
  /-- Nobody has asked for the cleanup. -/
  | armed
  /-- The cleanup is running. -/
  | firing
  /-- The cleanup is over. -/
  | fired (outcome : Outcome)
  deriving DecidableEq, Repr

namespace Gate

/-- Whether somebody has asked for the cleanup. -/
def isTriggered : Gate → Bool
  | .armed => false
  | _ => true

/-- Whether the cleanup is over. -/
def isFired : Gate → Bool
  | .fired _ => true
  | _ => false

/-- The error that the cleanup left, if it is over and left one. -/
def error : Gate → Option Text
  | .fired outcome => outcome
  | _ => none

end Gate

end MediaProxy
