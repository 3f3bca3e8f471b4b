import MediaProxy.Proofs.Proxy.Operations

/-!
# How a session ends, step by step

The end of a session is two steps of its entry, the trigger and the conclusion, and nothing of any
other entry is due meanwhile. So what a stop of a session leaves (`Proxy.stop_eq`), what the end of
its backend leaves (`Proxy.finishSession_eq`) and whatever else ends one session
(`Registry.Orderly.settle_armed`) is the registry with that session ended (`Registry.ended`). The
journal tells what happened on the way, and to which session (`Event.ofEnd`).
-/

namespace MediaProxy

open Registry

/-- What is told of the **end** of a session; `late` is whether its backend was over before anybody
asked it to stop. -/
def Event.ofEnd (n : SessionId) (late : Bool) : List Event :=
  [.halting n late, .halting n true, .silenced n true, .ended n true true true, .removed n]

namespace Registry

variable {β : Type} [Backend β] {r r₀ : Sessions β} {n : SessionId} {entry : Entry ClientKey} {s : Session}

/-- The registry after one session **has ended**. -/
def ended (n : SessionId) (r : Sessions β) : Sessions β :=
  conclude Session.contract n (trigger Session.contract n r)

/-! ## Settling in so many steps -/

omit [Backend β] in
/-- Advancing so many times and then some more is advancing that many times together. -/
theorem advances_add {κ σ : Type} [DecidableEq κ] (c : Contract κ σ) (j k : Nat) (r : Registry κ σ) :
    advances c (j + k) r = advances c k (advances c j r) := by
  induction j generalizing r with
  | zero => rw [Nat.zero_add, advances]
  | succ j ih => rw [Nat.succ_add, advances, advances, ih]

omit [Backend β] in
/-- What has settled after some steps is what settling comes to. -/
theorem settle_eq {κ σ : Type} [DecidableEq κ] {c : Contract κ σ} {r : Registry κ σ} {k : Nat}
    (hk : k ≤ 2 * r.entries.length) (hs : Settled (advances c k r)) : settle c r = advances c k r := by
  rw [settle, ← Nat.add_sub_cancel' hk, advances_add, advances_of_settled hs]

/-- After something has happened to one session, a step that is due is a step of its entry. -/
theorem Orderly.advance_eq (h₀ : Orderly r₀) (hs₀ : Settled r₀) (h : Orderly r) (ha : Aside [n] r₀ r)
    (he : r.entries[n]? = some entry) (hfired : entry.stage.gate.isFired = false)
    (hdone : r.isFinished n = true) : advance Session.contract r = proceed Session.contract n r := by
  have hdue : r.isDue entry = true := (h.isDue_iff he).mpr ⟨hfired, hdone⟩
  rcases advance_cases Session.contract r with ⟨hsettled, -⟩ | ⟨e, other, hother, hdue', heq⟩
  · rw [hsettled entry (List.mem_of_getElem? he)] at hdue
    cases hdue
  · by_cases hen : e = n
    · rw [heq, hen]
    · -- An entry of another session would have been due before.
      have hnot : e ∉ [n] := by simpa using hen
      obtain ⟨hfired', hdone'⟩ := (h.isDue_iff hother).mp hdue'
      have hother₀ : r₀.entries[e]? = some other := (ha.entries e hnot).symm.trans hother
      have hbusy := (h₀.armed hs₀ hother₀ hfired').2
      rw [← ha.finished e hnot, hdone'] at hbusy
      cases hbusy

/-- A registry that was settled, with one session changed that is over, is settled. -/
theorem Orderly.settled_of_aside (h₀ : Orderly r₀) (hs₀ : Settled r₀) (h : Orderly r) (ha : Aside [n] r₀ r)
    (hover : ∀ entry, r.entries[n]? = some entry → entry.stage.gate.isFired = true) : Settled r := by
  refine h.settled_of fun m other hother hfired => ?_
  by_cases hmn : m = n
  · subst hmn
    rw [hover other hother] at hfired
    cases hfired
  · have hnot : m ∉ [n] := by simpa using hmn
    rw [ha.finished m hnot]
    exact (h₀.armed hs₀ ((ha.entries m hnot).symm.trans hother) hfired).2

/-- After one session has been triggered, its conclusion is all that is due. -/
theorem Orderly.advance_stopping (h₀ : Orderly r₀) (hs₀ : Settled r₀) (h : Orderly r) (ha : Aside [n] r₀ r)
    (he : r.entries[n]? = some entry) (hs : entry.stage = .stopping) :
    advance Session.contract r = Registry.conclude Session.contract n r ∧
      Settled (Registry.conclude Session.contract n r) := by
  obtain ⟨s, hsession, hm⟩ := h.matched n entry he
  have hfired : entry.stage.gate.isFired = false := by rw [hs]; rfl
  have hstage : r.stage? n = some .stopping := hs ▸ stage?_of_getElem? he
  constructor
  · rw [h₀.advance_eq hs₀ h ha he hfired (hm.asked (by simp [hs])), proceed_of_stopping hstage]
  · refine h₀.settled_of_aside hs₀ (h.conclude he hs) (ha.next (h.aside_conclude he hs)) ?_
    intro entry' he'
    rw [h.conclude_eq he hfired hsession, getElem?_setStage] at he'
    obtain ⟨old, -, rfl⟩ := Option.map_eq_some_iff.mp he'
    rw [if_pos rfl]
    rfl

/-- A session that is stopping has only to be concluded, and then all is settled. -/
theorem Orderly.settle_stopping (h₀ : Orderly r₀) (hs₀ : Settled r₀) (h : Orderly r) (ha : Aside [n] r₀ r)
    (he : r.entries[n]? = some entry) (hs : entry.stage = .stopping) :
    settle Session.contract r = Registry.conclude Session.contract n r := by
  obtain ⟨hadvance, hsettled⟩ := h₀.advance_stopping hs₀ h ha he hs
  have hone : advances Session.contract 1 r = Registry.conclude Session.contract n r := hadvance
  have hlength := (List.getElem?_eq_some_iff.mp he).1
  exact (settle_eq (by omega) (hone ▸ hsettled)).trans hone

/-- A session that is triggered is stopping. -/
theorem entry_trigger (he : r.entries[n]? = some entry) :
    (trigger Session.contract n r).entries[n]? = some { entry with stage := .stopping } := by
  rw [entries_trigger he, getElem?_setStage, he]
  simp

/-- After the backend of one session is over, its whole end is due. -/
theorem Orderly.settle_armed (h₀ : Orderly r₀) (hs₀ : Settled r₀) (h : Orderly r) (ha : Aside [n] r₀ r)
    (he : r.entries[n]? = some entry) (hs : entry.stage = .armed) (hdone : r.isFinished n = true) :
    settle Session.contract r = r.ended n := by
  have hstage : r.stage? n = some .armed := hs ▸ stage?_of_getElem? he
  have hfired : entry.stage.gate.isFired = false := by rw [hs]; rfl
  have htrigger : advance Session.contract r = Registry.trigger Session.contract n r := by
    rw [h₀.advance_eq hs₀ h ha he hfired hdone, proceed_of_armed hstage]
  obtain ⟨hconclude, hsettled⟩ := h₀.advance_stopping hs₀ (h.trigger he hs)
    (ha.next (h.aside_trigger he)) (entry_trigger he) rfl
  have htwo : advances Session.contract 2 r = r.ended n := by
    rw [advances, htrigger]
    exact hconclude
  have hlength := (List.getElem?_eq_some_iff.mp he).1
  exact (settle_eq (by omega) (htwo ▸ hsettled)).trans htwo

/-! ## What is left -/

/-- A registry stays orderly when a session ends. -/
theorem Orderly.orderly_ended (h : Orderly r) (he : r.entries[n]? = some entry)
    (hs : entry.stage = .armed) : Orderly (r.ended n) :=
  (h.trigger he hs).conclude (entry_trigger he) rfl

/-- The end of a session leaves all others as they are. -/
theorem Orderly.aside_ended (h : Orderly r) (he : r.entries[n]? = some entry)
    (hs : entry.stage = .armed) : Aside [n] r (r.ended n) :=
  (h.aside_trigger he).next ((h.trigger he hs).aside_conclude (entry_trigger he) rfl)

omit [Backend β] in
/-- What finishing a worker does has to do with latches and observers only. -/
theorem finish_mk {κ σ τ : Type} (entries : List (Entry κ)) (bound : List (κ × EntryId)) (world : τ)
    (r : Registry κ σ) (w : WorkerId) :
    Registry.finish ⟨entries, bound, r.latches, r.observers, world⟩ w = ((r.finish w).1,
      ⟨entries, bound, (r.finish w).2.latches, (r.finish w).2.observers, world⟩) := by
  cases hl : r.latches[w]? <;> simp [Registry.finish, hl]

/-- The end of a session as one change of the registry. -/
theorem Orderly.ended_eq (h : Orderly r) (he : r.entries[n]? = some entry) (hs : entry.stage = .armed)
    (hsession : r.world.sessions[n]? = some s) :
    r.ended n = { (r.finish n).2 with
      entries := r.entries.modify n fun entry => { entry with stage := .concluded (.returns none) }
      bound := r.bound.filter (·.1 ≠ entry.key)
      world := ⟨(s.relays.close r.world.site).2, Backend.halt n (Backend.halt n r.world.backends),
        r.world.sessions.set n (s.silenced r.world.site),
        r.world.journal ++ Event.ofEnd n (r.isFinished n)⟩ } := by
  obtain ⟨s', hsession', hm⟩ := (h.trigger he hs).matched n _ (entry_trigger he)
  have hsessions : (Registry.trigger Session.contract n r).world.sessions[n]? = some s := by
    rw [h.trigger_eq he, world_finish, Floor.sessions_halt]
    exact hsession
  obtain rfl : s' = s := Option.some.inj (hsession'.symm.trans hsessions)
  have hdone : (Registry.trigger Session.contract n r).isFinished s'.backend = true :=
    hm.backend ▸ hm.asked (by simp)
  -- Whoever is told of the end still finds the session under its key.
  have hkept : (Registry.trigger Session.contract n r).lookup s'.client = some n :=
    (h.trigger he hs).lookup_eq_some_iff.mpr
      (((h.trigger he hs).bound_iff _ n).mpr ⟨_, entry_trigger he, hm.client.symm, rfl⟩)
  rw [ended, (h.trigger he hs).conclude_eq (entry_trigger he) rfl hsessions]
  simp only [Session.floorAfter, hdone, hkept, decide_true]
  rw [h.trigger_eq he, hm.backend]
  simp only [setStage, finish_mk, List.modify_modify_eq, Session.silence, Floor.site_halt]
  simp [Event.ofEnd, Floor.halt, Floor.note, Floor.setSession, Session.silenced, Function.comp_def]

/-- A session that is triggered has ended when all is settled. -/
theorem Orderly.settle_trigger (h : Orderly r) (hs : Settled r) (he : r.entries[n]? = some entry)
    (harmed : entry.stage = .armed) :
    settle Session.contract (Registry.trigger Session.contract n r) = r.ended n :=
  h.settle_stopping hs (h.trigger he harmed) (h.aside_trigger he) (entry_trigger he) rfl

/-- A session that has ended is over, and all that is due has been done. -/
theorem Orderly.settles_ended (h : Orderly r) (hs : Settled r) (he : r.entries[n]? = some entry)
    (harmed : entry.stage = .armed) : Settles [n] r (r.ended n) ∧
      (r.ended n).entries[n]? = some { entry with stage := .concluded (.returns none) } := by
  have hreach := h.reach hs he
  rwa [reach_of_armed (harmed ▸ stage?_of_getElem? he), h.settle_trigger hs he harmed] at hreach

/-! ## Several ends, one after another -/

/-- The entries of some numbers are all **armed**. -/
def Armed (r : Sessions β) (ns : List SessionId) : Prop :=
  ∀ n ∈ ns, ∃ entry, r.entries[n]? = some entry ∧ entry.stage = .armed

omit [Backend β] in
/-- Sessions that have not ended have not done so because of another one. -/
theorem Aside.armed {r' : Sessions β} {ns : List SessionId} (h : Aside [n] r r') (hn : n ∉ ns)
    (ha : r.Armed ns) : r'.Armed ns := by
  intro m hm
  obtain ⟨entry, he, harmed⟩ := ha m hm
  have hnot : m ∉ [n] := List.mem_singleton.not.mpr fun heq => hn (heq ▸ hm)
  exact ⟨entry, (h.entries m hnot).trans he, harmed⟩

/-- The session of a key that is given out has not begun to end, and its backend is at work. -/
theorem Orderly.entry_of_bound (h : Orderly r) (hs : Settled r) {key : ClientKey}
    (hb : (key, n) ∈ r.bound) :
    ∃ entry, r.entries[n]? = some entry ∧ entry.key = key ∧ entry.stage = .armed ∧
      r.isFinished n = false := by
  obtain ⟨entry, he, hkey, hfired⟩ := (h.bound_iff key n).mp hb
  exact ⟨entry, he, hkey, h.armed hs he hfired⟩

/-- No session under a key has ended. -/
theorem Orderly.armed_bound (h : Orderly r) (hs : Settled r) : r.Armed (r.bound.map Prod.snd) := by
  intro n hn
  obtain ⟨⟨key, n⟩, hb, rfl⟩ := List.mem_map.mp hn
  obtain ⟨entry, he, -, harmed, -⟩ := h.entry_of_bound hs hb
  exact ⟨entry, he, harmed⟩

/-- What every end of one session keeps, the ends of several keep. -/
theorem Orderly.foldl_ended_induction {P : Sessions β → Prop} (h : Orderly r) (hs : Settled r)
    {ns : List SessionId} (hnodup : ns.Nodup) (ha : r.Armed ns) (hP : P r)
    (step : ∀ r n entry, Orderly r → r.entries[n]? = some entry → entry.stage = .armed → P r →
      P (r.ended n)) : P (ns.foldl (fun r n => r.ended n) r) := by
  induction ns generalizing r with
  | nil => exact hP
  | cons n rest ih =>
    obtain ⟨hfresh, hdistinct⟩ := List.nodup_cons.mp hnodup
    obtain ⟨⟨entry, he, harmed⟩, hrest⟩ := List.forall_mem_cons.mp ha
    obtain ⟨hsettles, -⟩ := h.settles_ended hs he harmed
    exact ih hsettles.orderly hsettles.settled hdistinct (hsettles.aside.armed hfresh hrest)
      (step r n entry h he harmed hP)

/-- Sessions that are brought to their end one after another all end. -/
theorem Orderly.stopEach_eq (h : Orderly r) (hs : Settled r) {ns : List SessionId} (hnodup : ns.Nodup)
    (ha : r.Armed ns) :
    Registry.stopEach Session.contract ns r = some (.ok (), ns.foldl (fun r n => r.ended n) r) := by
  induction ns generalizing r with
  | nil => rfl
  | cons n rest ih =>
    obtain ⟨hfresh, hdistinct⟩ := List.nodup_cons.mp hnodup
    obtain ⟨⟨entry, he, harmed⟩, hrest⟩ := List.forall_mem_cons.mp ha
    obtain ⟨hsettles, hover⟩ := h.settles_ended hs he harmed
    rw [Registry.stopEach, reach_of_armed (harmed ▸ stage?_of_getElem? he)]
    simp only [h.settle_trigger hs he harmed, stage?_of_getElem? hover]
    exact ih hsettles.orderly hsettles.settled hdistinct (hsettles.aside.armed hfresh hrest)

end Registry

/-! ## The operations -/

namespace Proxy

variable {β : Type} [Backend β] {p : Proxy β} {key : ClientKey} {n : SessionId}

/-- A stop of a session that there is **ends** it, and answers that it did. -/
theorem stop_eq (ho : Orderly p.registry) (hs : Settled p.registry) {request : Amp.StopRequest}
    (hb : (ClientKey.of request.host request.port, n) ∈ p.registry.bound) :
    p.stop request = (.ok (), { p with registry := p.registry.ended n }) := by
  obtain ⟨entry, he, -, harmed, -⟩ := ho.entry_of_bound hs hb
  have hstage : p.registry.stage? n = some .armed := harmed ▸ stage?_of_getElem? he
  have hsettle := ho.settle_trigger hs he harmed
  obtain ⟨hsettles, hover⟩ := ho.settles_ended hs he harmed
  have hstop : Registry.stopOne Session.contract (ClientKey.of request.host request.port) p.registry =
      some (.stopped, p.registry.ended n) := by
    rw [Registry.stopOne, beginStop, (boundTo?_eq_some_iff ho.keys_nodup).mpr hb]
    simp only [reach_of_armed hstage, hsettle]
    rw [finishStop_of_concluded (stage?_of_getElem? hover), hsettles.orderly.remove_of_concluded hover rfl]
    rfl
  rw [stop]
  simp only [hstop, stopResult, settle_of_settled hsettles.settled]

/-- When the backend of a session that there is is over, the session **ends**. -/
theorem finishSession_eq (ho : Orderly p.registry) (hs : Settled p.registry)
    (hb : (key, n) ∈ p.registry.bound) :
    p.finishSession key = some ((p.registry.finish n).1,
      { p with registry := (p.registry.finish n).2.ended n }) := by
  obtain ⟨s, entry, hsession, he, hfired, -, hm⟩ := session?_of_bound ho hb
  have hdone : (p.registry.finish n).2.isFinished n = true := by
    simp [isFinished_finish, ho.latches ▸ (List.getElem?_eq_some_iff.mp he).1]
  have hsettle : settle Session.contract (p.registry.finish n).2 = (p.registry.finish n).2.ended n :=
    ho.settle_armed hs (ho.finish_unsettled n) (aside_finish _ n) (by rwa [entries_finish])
      (ho.armed hs he hfired).1 hdone
  simp only [finishSession, hsession, Option.map_some, finishBackend, hm.backend, hsettle]

end Proxy

end MediaProxy
