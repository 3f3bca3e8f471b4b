import MediaProxy.Proofs.Registry.Recording

/-!
# Requests to a registry

What can be asked of a registry, as data: `obey` grants a **request**, takes the steps that are due
then, and answers with a **response**. It has no result where a stop would wait for ever.

That sessions are started, and what their cleanups come to, is written down in a **chronicle**
beside the world (`Contract.chronicled`). To keep one changes nothing that can be seen without it
(`obey_plain`).
-/

namespace MediaProxy

/-- What has been **undertaken** for sessions: which were started, and what each cleanup came to. -/
structure Chronicle where
  starts : List SessionId
  cleanups : List (SessionId × Body)
  deriving DecidableEq, Repr

/-- The contract that keeps a chronicle, the latest last. -/
def Contract.chronicled {κ σ : Type} (c : Contract κ σ) : Contract κ (σ × Chronicle) where
  name := c.name
  workers world n := c.workers world.1 n
  start n r := (c.start n r.plain, { r.world.2 with starts := r.world.2.starts ++ [n] })
  halt w done world := ((c.halt w done world.1).1, ((c.halt w done world.1).2, world.2))
  cleanup n r := ((c.cleanup n r.plain).1, (c.cleanup n r.plain).2.mapWorld fun world =>
    (world, { r.world.2 with cleanups := r.world.2.cleanups ++ [(n, (c.cleanup n r.plain).1)] }))

namespace Registry

/-- What may be **requested** of a registry, or happen to it. -/
inductive Request (κ : Type) where
  | register (key : κ) (session : SessionId)
  | stop (key : κ)
  | stopAll
  | forget (key : κ) (session : SessionId)
  /-- A worker is done. -/
  | finish (worker : WorkerId)
  deriving DecidableEq, Repr

/-- What comes of a request. -/
inductive Response where
  | registered
  /-- The session was not registered. -/
  | refused (fault : Fault)
  | stopped (reply : StopReply)
  /-- How many sessions were stopped, or the message of a cleanup that broke down. -/
  | allStopped (reply : Except Text Nat)
  /-- Whether the session was under the key. -/
  | forgot (was : Bool)
  /-- Whether that was news. -/
  | finished (news : Bool)

variable {κ σ τ : Type} [DecidableEq κ] {f : σ → τ} {c : Contract κ σ} {d : Contract κ τ}

/-- Grants a request and takes the steps that are due then. -/
def obey (c : Contract κ σ) (r : Registry κ σ) : Request κ → Option (Response × Registry κ σ)
  | .register key n =>
    match r.register c key n with
    | .error fault => some (.refused fault, settle c r)
    | .ok r => some (.registered, settle c r)
  | .stop key => (stopOne c key r).map fun (reply, r) => (.stopped reply, settle c r)
  | .stopAll => (stopAll c r).map fun (reply, r) => (.allStopped reply, settle c r)
  | .forget key n => some (.forgot (r.forget key n).1, settle c (r.forget key n).2)
  | .finish w => some (.finished (r.finish w).1, settle c (r.finish w).2)

/-- Contracts that are translated obey requests alike. -/
theorem obey_mapWorld (h : c.Translates f d) (r : Registry κ σ) (request : Request κ) :
    obey d (r.mapWorld f) request =
      (obey c r request).map fun (response, r) => (response, r.mapWorld f) := by
  cases request with
  | register key n =>
    simp only [obey, register_mapWorld h]
    cases r.register c key n with
    | error fault => simp [Except.map, settle_mapWorld h]
    | ok r' => simp [Except.map, settle_mapWorld h]
  | stop key =>
    simp only [obey, stopOne_mapWorld h, Option.map_map]
    congr 1
    funext ⟨reply, r'⟩
    simp [settle_mapWorld h]
  | stopAll =>
    simp only [obey, stopAll_mapWorld h, Option.map_map]
    congr 1
    funext ⟨reply, r'⟩
    simp [settle_mapWorld h]
  | forget key n => simp [obey, forget_mapWorld, settle_mapWorld h]
  | finish w => simp [obey, finish_mapWorld, settle_mapWorld h]

omit [DecidableEq κ] in
@[simp] theorem name_chronicled (c : Contract κ σ) : c.chronicled.name = c.name := rfl

omit [DecidableEq κ] in
/-- Keeping a chronicle changes nothing of what a contract does. -/
theorem translates_chronicled (c : Contract κ σ) : c.chronicled.Translates Prod.fst c where
  name _ := rfl
  workers _ _ := rfl
  start _ _ := rfl
  halt _ _ _ := rfl
  cleanup _ _ := rfl

/-- With a chronicle a registry responds as it does without, and is the same but for the chronicle.
-/
theorem obey_plain {r r' : Registry κ (σ × Chronicle)} {request : Request κ} {response : Response}
    (h : obey c.chronicled r request = some (response, r')) :
    obey c r.plain request = some (response, r'.plain) := by
  rw [obey_mapWorld (translates_chronicled c), h]
  rfl

end Registry

end MediaProxy
