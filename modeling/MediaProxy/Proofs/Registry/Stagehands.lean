import MediaProxy.Proofs.Registry.Ending
import MediaProxy.Registry.Rehearsal

/-!
# Rehearsed sessions are steady

The contract of rehearsed sessions (`Stagehands.contract`), those that the registry is tested with,
never changes the workers of a session, and all that a cleanup does to the registry is to take the
session out of it.
-/

namespace MediaProxy.Stagehands

open Registry

variable {world : Stagehands} {n m : SessionId} {p p' : Performance}

/-- Starting a rehearsed session changes nobody's workers. -/
theorem workers_start (r : Registry Text Stagehands) :
    contract.workers (contract.start n r) m = contract.workers r.world m := by
  cases hm : r.world.performances[m]? with
  | none => simp [contract, List.getElem?_modify, hm]
  | some p => by_cases h : n = m <;> simp [contract, hm, h]

/-- A record with the same workers changes nobody's workers. -/
theorem workers_set (hp : world.performances[n]? = some p) (h : p'.workers = p.workers) :
    contract.workers { world with performances := world.performances.set n p' } m =
      contract.workers world m := by
  by_cases hm : n = m
  · subst hm
    obtain ⟨hlt, rfl⟩ := List.getElem?_eq_some_iff.mp hp
    simp [contract, hlt, h]
  · simp [contract, hm]

/-- Writing down in the record of a session is no matter of its workers. -/
theorem deed_set {r : Registry Text Stagehands} (hp : r.world.performances[n]? = some p)
    (h : p'.workers = p.workers) : Deed contract r
      { r with world := { r.world with performances := r.world.performances.set n p' } } :=
  .change _ fun _ _ => workers_set hp h

/-- The contract of rehearsed sessions is steady. -/
theorem steady_contract : contract.Steady where
  start _ r _ := workers_start r
  halt _ _ _ _ := rfl
  cleanup n r := by
    cases hp : r.world.performances[n]? with
    | none =>
      simp only [contract, hp]
      exact .refl
    | some p =>
      cases hl : p.leaves with
      | true =>
        simp only [contract, hp, hl, if_true]
        exact .tail (.single (.forget p.key n)) (deed_set (p := p) (by simpa using hp) rfl)
      | false =>
        simp only [contract, hp, hl]
        exact .single (deed_set hp rfl)

end MediaProxy.Stagehands
