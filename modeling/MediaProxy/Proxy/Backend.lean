import MediaProxy.Fault
import MediaProxy.Registry.Basic
import MediaProxy.Url.Basic

/-!
# Backends

For every client the proxy holds a session on the media server, its **backend**. Backends are the
workers of the proxy's sessions and have their numbers. What opening one and asking one to stop
does to the media server's side is for a state `β` to say; that a backend is done when it has been
asked to stop is common to all of them.

`Fates` is the plainest such state: nothing but a list of how the next backends turn out.
-/

namespace MediaProxy

/-- The **media server's side** of sessions. -/
class Backend (β : Type) where
  /-- Opens a backend for a media URL, with media going to a port and its successor and a transcript
  going to a file. The answer is whether the backend is over already, or why there is none. -/
  connect : Url → UInt16 → Option Text → β → Except Fault Bool × β
  /-- Asks a backend to stop. -/
  halt : WorkerId → β → β

/-- How a backend **turns out**. -/
inductive Fate where
  /-- It works until it is asked to stop. -/
  | works
  /-- It is over as soon as it is open. -/
  | ends
  /-- It cannot be opened. -/
  | fails (cause : Fault)
  deriving DecidableEq, Repr

/-- How the **next backends** turn out; all others work. -/
structure Fates where
  next : List Fate
  deriving DecidableEq, Repr

namespace Fates

def openNext (f : Fates) : Except Fault Bool × Fates :=
  match f.next with
  | [] => (.ok false, f)
  | .works :: rest => (.ok false, ⟨rest⟩)
  | .ends :: rest => (.ok true, ⟨rest⟩)
  | .fails cause :: rest => (.error cause, ⟨rest⟩)

instance : Backend Fates where
  connect _ _ _ f := f.openNext
  halt _ f := f

end Fates

end MediaProxy
