import MediaProxy.Proofs.Registry.Translating

/-!
# Recorded contracts

What is called of a contract, and how often, cannot be seen in a registry. `Contract.recorded` is a
contract with a log in its world: it does what the contract does and writes down every call.
`callsOf` reads off what an operation on a registry calls, by running it with an empty log.

Recording changes nothing (`plain_proceed`), and the calls of the two steps of an entry's end are
these: the first asks every worker to stop, in order; the second cleans the session up
(`callsOf_proceed`).
-/

namespace MediaProxy

/-- A **call** on a contract. -/
inductive Call where
  | start (session : SessionId)
  | halt (worker : WorkerId)
  | cleanup (session : SessionId)
  deriving DecidableEq, Repr

namespace Registry

variable {κ σ : Type}

/-- The registry without the log in its world. -/
abbrev plain {α : Type} (r : Registry κ (σ × α)) : Registry κ σ := r.mapWorld Prod.fst

end Registry

/-- The contract that writes down every **call**, the latest last. -/
def Contract.recorded {κ σ : Type} (c : Contract κ σ) : Contract κ (σ × List Call) where
  name := c.name
  workers world n := c.workers world.1 n
  start n r := (c.start n r.plain, r.world.2 ++ [.start n])
  halt w done world := ((c.halt w done world.1).1, ((c.halt w done world.1).2, world.2 ++ [.halt w]))
  cleanup n r := ((c.cleanup n r.plain).1,
    (c.cleanup n r.plain).2.mapWorld fun world => (world, r.world.2 ++ [.cleanup n]))

namespace Registry

variable {κ σ : Type} {c : Contract κ σ} {r : Registry κ σ} {e : EntryId} {entry : Entry κ}

/-- What an operation **calls** of a contract. -/
def callsOf
    (operation : Contract κ (σ × List Call) → Registry κ (σ × List Call) → Registry κ (σ × List Call))
    (c : Contract κ σ) (r : Registry κ σ) : List Call :=
  (operation c.recorded (r.mapWorld fun world => (world, []))).world.2

/-! ## Recording changes nothing -/

/-- Writing calls down changes nothing of what they do. -/
theorem translates_recorded (c : Contract κ σ) : c.recorded.Translates Prod.fst c where
  name _ := rfl
  workers _ _ := rfl
  start _ _ := rfl
  halt _ _ _ := rfl
  cleanup _ _ := rfl

/-- A step of the recorded contract is a step of the contract. -/
theorem plain_proceed {r : Registry κ (σ × List Call)} [DecidableEq κ] :
    (proceed c.recorded e r).plain = proceed c e r.plain :=
  (proceed_mapWorld (translates_recorded c)).symm

section Log

variable {r : Registry κ (σ × List Call)}

/-- The call that asks a worker to stop is written down. -/
theorem log_halt (w : WorkerId) : (halt c.recorded r w).world.2 = r.world.2 ++ [.halt w] := by
  rw [halt_eq]
  split
  · rw [world_finish]
    rfl
  · rfl

/-- The calls that ask some workers to stop are written down one after another. -/
theorem log_foldl_halt (ws : List WorkerId) :
    (ws.foldl (halt c.recorded) r).world.2 = r.world.2 ++ ws.map .halt := by
  induction ws generalizing r with
  | nil => simp
  | cons w ws ih =>
    rw [List.foldl_cons, ih, log_halt, List.map_cons, List.append_assoc, List.singleton_append]

end Log

/-! ## The calls of a step -/

theorem callsOf_proceed (he : r.entries[e]? = some entry) : callsOf (proceed · e) c r =
    match entry.stage with
    | .armed => (c.workers r.world entry.session).map .halt
    | .stopping => [.cleanup entry.session]
    | .concluded _ => [] := by
  have he' : (r.mapWorld fun world => (world, ([] : List Call))).entries[e]? = some entry := he
  have hstage := stage?_of_getElem? he'
  rw [callsOf]
  cases hs : entry.stage with
  | armed =>
    rw [hs] at hstage
    rw [proceed_of_armed hstage, trigger_eq he', log_foldl_halt]
    rfl
  | stopping =>
    rw [hs] at hstage
    rw [proceed_of_stopping hstage, conclude_eq he']
    rfl
  | concluded body =>
    rw [hs] at hstage
    rw [proceed, hstage]
    rfl

/-- A stop calls something only if it triggers the entry that it reaches. -/
theorem callsOf_reach (he : r.entries[e]? = some entry) : callsOf (fun c r => (reach c e r).2) c r =
    if entry.stage = .armed then (c.workers r.world entry.session).map .halt else [] := by
  have he' : (r.mapWorld fun world => (world, ([] : List Call))).entries[e]? = some entry := he
  have hstage := stage?_of_getElem? he'
  rw [callsOf]
  by_cases hs : entry.stage = .armed
  · rw [hs] at hstage
    rw [if_pos hs, reach_of_armed hstage, trigger_eq he', log_foldl_halt]
    rfl
  · have hne : (r.mapWorld fun world => (world, ([] : List Call))).stage? e ≠ some .armed := by
      simpa [hstage] using hs
    rw [if_neg hs, reach_of_not_armed hne]
    rfl

end Registry

end MediaProxy
