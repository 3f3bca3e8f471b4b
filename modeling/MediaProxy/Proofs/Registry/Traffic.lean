import Mathlib.Data.List.Nodup
import MediaProxy.Proofs.Registry.Recording
import MediaProxy.Proofs.Registry.Stagehands

/-!
# Traffic on a registry

Everything that can go on at a registry at the same time, one step after another (`Traffic.Step`):
what code outside does to it, the steps of entries that are due, in any order, and any number of
stops, each of one session or of all of them. A stop is a **sweep** over the entries that it has
chosen. It reaches them one after another, waits at each until the cleanup is over, and removes them
at the end; a cleanup of its own that breaks down ends it.

Beside the registry the traffic keeps which entries were reached by a stop and, in a ledger, what
was called of the contract for which entry. The main result says what the ledger holds when no step
is due (`cleaned_up_once`). It rests on one invariant of runs (`Consistent`): the calls for an entry
are determined by its stage, and its stage has left `armed` for one of the two reasons that there
are.

The functions that settle a registry and stop sessions are runs of this traffic (`run_settle`,
`run_stopOne`, `run_stopAll`).
-/

namespace MediaProxy.Registry

variable {κ σ : Type}

/-- A stop of one session or of all: the entries chosen, those that it has not reached yet, and the
one that it waits for. -/
structure Sweep where
  chosen : List EntryId
  ahead : List EntryId
  waiting : Option Stop
  deriving DecidableEq, Repr

/-- A registry with the **sweeps** under way, the entries that were reached, and the calls for each.
-/
structure Traffic (κ σ : Type) where
  registry : Registry κ σ
  sweeps : List Sweep
  reached : List EntryId
  ledger : List (EntryId × Call)

namespace Traffic

/-- A registry without sessions, and nothing under way. -/
def idle (world : σ) : Traffic κ σ := ⟨.empty world, [], [], []⟩

/-- The traffic after an operation for an entry. -/
def serve (t : Traffic κ σ) (c : Contract κ σ) (e : EntryId)
    (operation : ∀ {σ : Type}, Contract κ σ → Registry κ σ → Registry κ σ) : Traffic κ σ :=
  { t with
    registry := operation c t.registry
    ledger := t.ledger ++ (callsOf operation c t.registry).map fun call => (e, call) }

/-- The calls that were made for an entry. -/
def callsFor (t : Traffic κ σ) (e : EntryId) : List Call :=
  (t.ledger.filter fun record => record.1 = e).map Prod.snd

/-- One **step** of traffic. -/
inductive Step [DecidableEq κ] (c : Contract κ σ) (t : Traffic κ σ) : Traffic κ σ → Prop where
  /-- Code outside the registry does something. -/
  | deed {r : Registry κ σ} (deed : Deed c t.registry r) : Step c t { t with registry := r }
  /-- An entry that is due takes its step. -/
  | due {e : EntryId} {entry : Entry κ} (entry_eq : t.registry.entries[e]? = some entry)
      (isDue : t.registry.isDue entry = true) : Step c t (t.serve c e fun c r => proceed c e r)
  /-- A stop of the session under a key begins. -/
  | begin_one (key : κ) {e : EntryId} (bound : t.registry.boundTo? key = some e) :
      Step c t { t with sweeps := t.sweeps ++ [⟨[e], [e], none⟩] }
  /-- A stop of all sessions begins. It takes them in any order. -/
  | begin_all {chosen : List EntryId} (all : chosen.Perm (t.registry.bound.map Prod.snd)) :
      Step c t { t with sweeps := t.sweeps ++ [⟨chosen, chosen, none⟩] }
  /-- A stop reaches the next entry and waits there. -/
  | reach {before after : List Sweep} {chosen ahead : List EntryId} {e : EntryId}
      (sweep : t.sweeps = before ++ ⟨chosen, e :: ahead, none⟩ :: after) :
      Step c t { t.serve c e fun c r => (reach c e r).2 with
        sweeps := before ++ ⟨chosen, ahead, some (reach c e t.registry).1⟩ :: after
        reached := t.reached ++ [e] }
  /-- The cleanup that a stop waits for is over, and the stop goes on or breaks down. -/
  | pass {before after : List Sweep} {chosen ahead : List EntryId} {s : Stop} {body : Body}
      (sweep : t.sweeps = before ++ ⟨chosen, ahead, some s⟩ :: after)
      (concluded : t.registry.stage? s.entry = some (.concluded body)) :
      Step c t { t with
        sweeps := before ++ (if s.breaksAt body then [] else [⟨chosen, ahead, none⟩]) ++ after }
  /-- A stop that has reached every entry removes them and returns. -/
  | finish {before after : List Sweep} {chosen : List EntryId}
      (sweep : t.sweeps = before ++ ⟨chosen, [], none⟩ :: after) :
      Step c t { t with registry := chosen.foldl remove t.registry, sweeps := before ++ after }

/-- Any number of steps. -/
abbrev Run [DecidableEq κ] (c : Contract κ σ) : Traffic κ σ → Traffic κ σ → Prop :=
  Relation.ReflTransGen (Step c)

/-! ## The invariant -/

/-- The calls that an entry at a stage has led to. -/
def callsUpTo (c : Contract κ σ) (r : Registry κ σ) (entry : Entry κ) : List Call :=
  match entry.stage with
  | .armed => []
  | .stopping => (c.workers r.world entry.session).map .halt
  | .concluded _ => (c.workers r.world entry.session).map .halt ++ [.cleanup entry.session]

/-- What is true of an entry at any time: the calls for it are those of its **stage**, it is
triggered by a stop or by a worker of its own, and it is over only after all of its workers. -/
structure Accounted (c : Contract κ σ) (t : Traffic κ σ) (e : EntryId) (entry : Entry κ) : Prop where
  calls : t.callsFor e = callsUpTo c t.registry entry
  cause : entry.stage ≠ .armed →
    e ∈ t.reached ∨ ∃ w ∈ c.workers t.registry.world entry.session, t.registry.isFinished w = true
  reached : e ∈ t.reached → entry.stage ≠ .armed
  concluded : ∀ body, entry.stage = .concluded body →
    ∀ w ∈ c.workers t.registry.world entry.session, t.registry.isFinished w = true

/-- What is true of **traffic** at any time. -/
structure Consistent (c : Contract κ σ) (t : Traffic κ σ) : Prop where
  sound : Sound c t.registry
  reached_lt : ∀ e ∈ t.reached, e < t.registry.entries.length
  ahead_lt : ∀ sweep ∈ t.sweeps, ∀ e ∈ sweep.ahead, e < t.registry.entries.length
  ledger_lt : ∀ record ∈ t.ledger, record.1 < t.registry.entries.length
  accounted : ∀ e entry, t.registry.entries[e]? = some entry → Accounted c t e entry

variable {c : Contract κ σ} {t t' : Traffic κ σ} {r : Registry κ σ} {e e' : EntryId} {entry : Entry κ}

/-- Traffic is consistent where there is none. -/
theorem consistent_idle (c : Contract κ σ) (world : σ) : Consistent c (idle world) := by
  refine ⟨⟨?_, ?_, ?_⟩, ?_, ?_, ?_, ?_⟩ <;> simp [idle, Registry.empty, Filed]

/-- Where no call was made for an entry there are none for it. -/
theorem callsFor_eq_nil (h : ∀ record ∈ t.ledger, record.1 ≠ e) : t.callsFor e = [] := by
  simpa [callsFor, List.filter_eq_nil_iff] using fun e' call hr (he : e' = e) => h _ hr he

/-- Only the registry changes, and to a later one. -/
theorem Consistent.later (h : Consistent c t) (hr : Sound c r) (hl : Later c t.registry r) :
    Consistent c { t with registry := r } := by
  obtain ⟨added, hentries, harmed⟩ := hl.entries
  have hle : t.registry.entries.length ≤ r.entries.length := by simp [hentries]
  refine ⟨hr, fun e he => Nat.lt_of_lt_of_le (h.reached_lt e he) hle,
    fun sweep hs e he => Nat.lt_of_lt_of_le (h.ahead_lt sweep hs e he) hle,
    fun record hrec => Nat.lt_of_lt_of_le (h.ledger_lt record hrec) hle, ?_⟩
  intro e entry he
  rw [hentries, List.getElem?_append] at he
  split at he
  next hlt =>
    have hmem := List.mem_of_getElem? he
    obtain ⟨hcalls, hcause, hreached, hover⟩ := h.accounted e entry he
    refine ⟨?_, ?_, hreached, ?_⟩
    · refine Eq.trans hcalls ?_
      simp only [callsUpTo, hl.workers entry hmem]
    · rw [hl.workers entry hmem]
      exact fun hs => (hcause hs).imp_right fun ⟨w, hw, hf⟩ => ⟨w, hw, hl.finished w hf⟩
    · rw [hl.workers entry hmem]
      exact fun body hs w hw => hl.finished w (hover body hs w hw)
  next hge =>
    -- An entry that has just been added: nothing was called for it, and no stop has reached it.
    have hstage := harmed entry (List.mem_of_getElem? he)
    have hnil : t.callsFor e = [] :=
      callsFor_eq_nil fun record hrec heq => hge (heq ▸ h.ledger_lt record hrec)
    refine ⟨?_, fun hs => absurd hstage hs, fun hr => absurd (h.reached_lt e hr) hge, ?_⟩
    · exact Eq.trans hnil (by simp only [callsUpTo, hstage])
    · simp [hstage]

/-- The calls that are made for one entry are no matter of others. -/
theorem callsFor_append (t : Traffic κ σ) (e e' : EntryId) (calls : List Call) :
    ((t.ledger ++ calls.map fun call => (e, call)).filter fun record => record.1 = e').map Prod.snd =
      t.callsFor e' ++ if e = e' then calls else [] := by
  rw [List.filter_append, List.map_append, List.filter_map]
  by_cases h : e = e'
  · simp [callsFor, h, Function.comp_def]
  · simp [callsFor, h, Function.comp_def]

/-- An entry comes to another stage, by the calls that this takes. -/
theorem Consistent.restage (h : Consistent c t) (he : t.registry.entries[e]? = some entry)
    (stage : Stage) (calls : List Call) {more : List EntryId} (hmore : ∀ e' ∈ more, e' = e)
    (hcalls : callsUpTo c t.registry { entry with stage := stage } =
      callsUpTo c t.registry entry ++ calls)
    (hstage : stage ≠ .armed)
    (hcause : e ∈ t.reached ++ more ∨
      ∃ w ∈ c.workers t.registry.world entry.session, t.registry.isFinished w = true)
    (hover : ∀ body, stage = .concluded body →
      ∀ w ∈ c.workers t.registry.world entry.session, t.registry.isFinished w = true) :
    Consistent c { t with
      registry := t.registry.setStage e stage
      reached := t.reached ++ more
      ledger := t.ledger ++ calls.map fun call => (e, call) } := by
  have hlt : e < t.registry.entries.length := (List.getElem?_eq_some_iff.mp he).1
  refine {
    sound := h.sound.setStage e stage
    reached_lt := ?reached_lt
    ahead_lt := ?ahead_lt
    ledger_lt := ?ledger_lt
    accounted := ?accounted }
  case reached_lt =>
    simp only [length_setStage, List.mem_append]
    rintro e' (he' | he')
    · exact h.reached_lt e' he'
    · exact hmore e' he' ▸ hlt
  case ahead_lt =>
    simpa using h.ahead_lt
  case ledger_lt =>
    simp only [length_setStage, List.mem_append, List.mem_map]
    rintro record (hr | ⟨call, -, rfl⟩)
    · exact h.ledger_lt record hr
    · exact hlt
  case accounted =>
    intro e' entry' he'
    rw [getElem?_setStage, Option.map_eq_some_iff] at he'
    obtain ⟨old, hold, rfl⟩ := he'
    have hfor := callsFor_append t e e' calls
    by_cases heq : e = e'
    · subst heq
      obtain rfl : entry = old := Option.some.inj (he.symm.trans hold)
      simp only [if_true] at hfor ⊢
      exact ⟨hfor.trans ((congrArg (· ++ calls) (h.accounted e entry he).calls).trans hcalls.symm),
        fun _ => hcause, fun _ => hstage, hover⟩
    · obtain ⟨hc', hcause', hreached', hover'⟩ := h.accounted e' old hold
      rw [if_neg heq, List.append_nil] at hfor
      simp only [if_neg heq]
      refine ⟨hfor.trans hc', fun hs => (hcause' hs).imp_left fun hr => List.mem_append_left _ hr,
        ?_, hover'⟩
      intro hr
      rcases List.mem_append.mp hr with hr | hr
      · exact hreached' hr
      · exact absurd (hmore e' hr).symm heq

/-! ## Every step keeps it -/

/-- Only the sweeps change, and none has anything ahead that no sweep had. -/
theorem Consistent.resweep (h : Consistent c t) {sweeps : List Sweep}
    (hs : ∀ sweep ∈ sweeps, ∀ e ∈ sweep.ahead, e < t.registry.entries.length) :
    Consistent c { t with sweeps := sweeps } := by
  refine { h with ahead_lt := hs, accounted := fun e entry he => ?_ }
  obtain ⟨hcalls, hcause, hreached, hover⟩ := h.accounted e entry he
  exact ⟨hcalls, hcause, hreached, hover⟩

variable [DecidableEq κ]

/-- A registry is later when some workers have been asked to stop. -/
theorem later_foldl_halt (hc : c.Steady) (ws : List WorkerId) : Later c r (ws.foldl (halt c) r) :=
  (deeds_foldl_halt hc.faithful ws).later hc

/-- An armed entry is triggered, because it is due or because a stop reaches it. -/
theorem Consistent.trigger (h : Consistent c t) (hc : c.Steady)
    (he : t.registry.entries[e]? = some entry) (hs : entry.stage = .armed) {more : List EntryId}
    (hmore : ∀ e' ∈ more, e' = e)
    (hcause : e ∈ t.reached ++ more ∨
      ∃ w ∈ c.workers t.registry.world entry.session, t.registry.isFinished w = true) :
    Consistent c { t with
      registry := Registry.trigger c e t.registry
      reached := t.reached ++ more
      ledger := t.ledger ++ ((c.workers t.registry.world entry.session).map .halt).map
        fun call => (e, call) } := by
  have hstep := h.restage he .stopping ((c.workers t.registry.world entry.session).map .halt) hmore
    (by simp [callsUpTo, hs])
    (by simp) hcause (by simp)
  rw [trigger_eq he]
  exact hstep.later (hstep.sound.deeds hc (deeds_foldl_halt hc.faithful _)) (later_foldl_halt hc _)

/-- A stopping entry whose workers are all done is cleaned up. -/
theorem Consistent.conclude (h : Consistent c t) (hc : c.Steady)
    (he : t.registry.entries[e]? = some entry) (hs : entry.stage = .stopping)
    (hdone : ∀ w ∈ c.workers t.registry.world entry.session, t.registry.isFinished w = true) :
    Consistent c { t with
      registry := Registry.conclude c e t.registry
      ledger := t.ledger ++ [.cleanup entry.session].map fun call => (e, call) } := by
  -- A cleanup may do to the registry what code outside may, so this comes before the stage is set.
  have hdeeds := hc.cleanup entry.session t.registry
  have hl := hdeeds.later hc
  have hmid := h.later (h.sound.deeds hc hdeeds) hl
  have hentry := List.mem_of_getElem? he
  obtain ⟨added, hentries, -⟩ := hl.entries
  have he' : (c.cleanup entry.session t.registry).2.entries[e]? = some entry := by
    rw [hentries, List.getElem?_append_left (List.getElem?_eq_some_iff.mp he).1, he]
  have hdone' : ∀ w ∈ c.workers (c.cleanup entry.session t.registry).2.world entry.session,
      (c.cleanup entry.session t.registry).2.isFinished w = true := by
    rw [hl.workers entry hentry]
    exact fun w hw => hl.finished w (hdone w hw)
  have hcause := (hmid.accounted e entry he').cause (by simp [hs])
  have hstep := hmid.restage he' (.concluded (c.cleanup entry.session t.registry).1)
    [.cleanup entry.session]
    (List.forall_mem_nil (· = e)) (by simp [callsUpTo, hs]) (by simp) (by simpa using hcause)
    (fun _ _ => hdone')
  rw [conclude_eq he]
  simpa using hstep

/-- The step of an entry that is due. -/
theorem Consistent.proceed (h : Consistent c t) (hc : c.Steady)
    (he : t.registry.entries[e]? = some entry) (hdue : t.registry.isDue entry = true) :
    Consistent c (t.serve c e fun c r => Registry.proceed c e r) := by
  have hentry := List.mem_of_getElem? he
  have hstage := stage?_of_getElem? he
  cases hs : entry.stage with
  | armed =>
    rw [hs] at hstage
    rw [serve, callsOf_proceed he, hs, proceed_of_armed hstage]
    have hfinished := (h.sound.watchful.isDue_armed_iff hentry hs).mp hdue
    simpa using h.trigger hc he hs (List.forall_mem_nil (· = e)) (.inr hfinished)
  | stopping =>
    rw [hs] at hstage
    rw [serve, callsOf_proceed he, hs, proceed_of_stopping hstage]
    exact h.conclude hc he hs ((h.sound.watchful.isDue_stopping_iff hentry hs).mp hdue)
  | concluded body =>
    rw [not_isDue_concluded hs] at hdue
    exact absurd hdue Bool.false_ne_true

/-- A stop reaches an entry. -/
theorem Consistent.reach (h : Consistent c t) (hc : c.Steady)
    (he : t.registry.entries[e]? = some entry) :
    Consistent c
      { t.serve c e fun c r => (Registry.reach c e r).2 with reached := t.reached ++ [e] } := by
  have hstage := stage?_of_getElem? he
  rw [serve, callsOf_reach he]
  by_cases hs : entry.stage = .armed
  · rw [hs] at hstage
    rw [if_pos hs, reach_of_armed hstage]
    exact h.trigger hc he hs (by simp) (.inl (by simp))
  · -- The end has begun already, so the entry is reached without any call.
    have hne : t.registry.stage? e ≠ some .armed := by simpa [hstage] using hs
    rw [if_neg hs, reach_of_not_armed hne, List.map_nil, List.append_nil]
    refine { h with reached_lt := ?reached_lt, accounted := ?accounted }
    case reached_lt =>
      simpa [or_imp, forall_and] using ⟨h.reached_lt, (List.getElem?_eq_some_iff.mp he).1⟩
    case accounted =>
      intro e' entry' he'
      obtain ⟨hcalls, hcause, hreached, hover⟩ := h.accounted e' entry' he'
      refine ⟨hcalls, fun hs' => (hcause hs').imp_left fun hr => List.mem_append_left _ hr, ?_, hover⟩
      intro hr
      rcases List.mem_append.mp hr with hr | hr
      · exact hreached hr
      · obtain rfl := List.mem_singleton.mp hr
        obtain rfl := Option.some.inj (he.symm.trans he')
        exact hs

/-- What holds on when an entry is removed does so when several are. -/
theorem foldl_remove_induction {P : Registry κ σ → Prop} (hP : ∀ r e, P r → P (r.remove e))
    (chosen : List EntryId) (h : P r) : P (chosen.foldl remove r) := by
  induction chosen generalizing r with
  | nil => exact h
  | cons e chosen ih => exact ih (hP r e h)

/-- A registry is later when an entry has been removed. -/
theorem later_remove (c : Contract κ σ) (r : Registry κ σ) (e : EntryId) :
    Later c r (r.remove e) := by
  unfold remove
  split <;> exact .of_eq rfl rfl fun _ _ => rfl

/-- Traffic stays consistent with every step. -/
theorem Consistent.step (h : Consistent c t) (hc : c.Steady) (hs : Step c t t') :
    Consistent c t' := by
  cases hs with
  | deed deed => exact h.later (h.sound.deed hc deed) (deed.later hc)
  | due entry_eq isDue => exact h.proceed hc entry_eq isDue
  | @begin_one key e bound =>
    have he : e < t.registry.entries.length := h.sound.bound_lt _ (mem_bound_of_boundTo? bound)
    apply h.resweep
    intro sweep hs
    rcases List.mem_append.mp hs with hs | hs
    · exact h.ahead_lt sweep hs
    · simpa [List.mem_singleton.mp hs] using he
  | begin_all all =>
    apply h.resweep
    intro sweep hs e he
    rcases List.mem_append.mp hs with hs | hs
    · exact h.ahead_lt sweep hs e he
    · obtain rfl := List.mem_singleton.mp hs
      obtain ⟨b, hb, rfl⟩ := List.mem_map.mp (all.mem_iff.mp he)
      exact h.sound.bound_lt b hb
  | @reach before after chosen ahead e sweep =>
    have hahead : ∀ e' ∈ e :: ahead, e' < t.registry.entries.length :=
      h.ahead_lt ⟨chosen, e :: ahead, none⟩ (by simp [sweep])
    have hlt := hahead e List.mem_cons_self
    have hstep := h.reach hc (List.getElem?_eq_getElem hlt)
    apply hstep.resweep
    intro sweep' hs e' he'
    refine Nat.lt_of_lt_of_eq ?_ length_reach.symm
    rcases List.mem_append.mp hs with hs | hs
    · exact h.ahead_lt sweep' (by simp [sweep, hs]) e' he'
    · rcases List.mem_cons.mp hs with rfl | hs
      · exact hahead e' (List.mem_cons_of_mem e he')
      · exact h.ahead_lt sweep' (by simp [sweep, hs]) e' he'
  | @pass before after chosen ahead s body sweep concluded =>
    apply h.resweep
    intro sweep' hs
    have hwas : sweep' ∈ before ∨ sweep' = ⟨chosen, ahead, none⟩ ∨ sweep' ∈ after := by
      cases hb : s.breaksAt body with
      | true => exact (show sweep' ∈ before ∨ sweep' ∈ after by simpa [hb] using hs).imp_right .inr
      | false => simpa [hb] using hs
    rcases hwas with hs | rfl | hs
    · exact h.ahead_lt sweep' (by simp [sweep, hs])
    · exact h.ahead_lt ⟨chosen, ahead, some s⟩ (by simp [sweep])
    · exact h.ahead_lt sweep' (by simp [sweep, hs])
  | @finish before after chosen sweep =>
    have hrest : ∀ sweep' ∈ before ++ after, ∀ e ∈ sweep'.ahead, e < t.registry.entries.length :=
      fun sweep' hs => h.ahead_lt sweep' (by
        rw [sweep]
        rcases List.mem_append.mp hs with hs | hs <;> simp [hs])
    have hsub := h.resweep hrest
    -- Removals take entries from under their keys and change nothing else.
    refine hsub.later ?_ ?_
    · exact foldl_remove_induction (fun r e hr => hr.remove e) chosen h.sound
    · exact foldl_remove_induction (P := Later c t.registry)
        (fun r e hr => hr.trans (later_remove c r e)) chosen (.of_eq rfl rfl fun _ _ => rfl)

/-- Traffic stays consistent throughout a run. -/
theorem Consistent.run (h : Consistent c t) (hc : c.Steady) (hr : Run c t t') : Consistent c t' := by
  induction hr with
  | refl => exact h
  | tail _ hs ih => exact ih.step hc hs

/-! ## Once and never early -/

section Calls

omit [DecidableEq κ]

/-- A session is cleaned up once if its gate has fired, and not before. -/
theorem count_cleanup_callsUpTo : (callsUpTo c r entry).count (.cleanup entry.session) =
    if entry.stage.gate.isFired = true then 1 else 0 := by
  have hzero : ∀ ws : List WorkerId, (ws.map Call.halt).count (.cleanup entry.session) = 0 :=
    fun ws => by
    rw [List.count_eq_zero]
    simp
  cases hs : entry.stage <;> simp [callsUpTo, hs, Stage.gate, Gate.isFired, hzero]

/-- Each worker of a session is asked to stop once if the gate was triggered, and not before. -/
theorem count_halt_callsUpTo (hd : (c.workers r.world entry.session).Nodup) {w : WorkerId}
    (hw : w ∈ c.workers r.world entry.session) : (callsUpTo c r entry).count (.halt w) =
      if entry.stage.gate.isTriggered = true then 1 else 0 := by
  have hone : ((c.workers r.world entry.session).map Call.halt).count (.halt w) = 1 :=
    List.count_eq_one_of_mem (hd.map fun _ _ => Call.halt.inj) (List.mem_map_of_mem hw)
  cases hs : entry.stage <;> simp [callsUpTo, hs, Stage.gate, Gate.isTriggered, hone]

/-- For a session nothing is called but its cleanup and the stops of its workers. -/
theorem mem_callsUpTo {call : Call} (h : call ∈ callsUpTo c r entry) :
    call = .cleanup entry.session ∨ ∃ w ∈ c.workers r.world entry.session, call = .halt w := by
  cases hs : entry.stage with
  | armed => simp [callsUpTo, hs] at h
  | stopping =>
    obtain ⟨w, hw, rfl⟩ := List.mem_map.mp (by simpa only [callsUpTo, hs] using h)
    exact .inr ⟨w, hw, rfl⟩
  | concluded body =>
    simp only [callsUpTo, hs, List.mem_append, List.mem_singleton] at h
    rcases h with h | rfl
    · obtain ⟨w, hw, rfl⟩ := List.mem_map.mp h
      exact .inr ⟨w, hw, rfl⟩
    · exact .inl rfl

/-- An entry that is not due has ended exactly if it has been triggered and all of its workers are
done. -/
theorem Consistent.isFired_iff (h : Consistent c t) (he : t.registry.entries[e]? = some entry)
    (hdue : t.registry.isDue entry = false) : entry.stage.gate.isFired = true ↔
      entry.stage.gate.isTriggered = true ∧
        ∀ w ∈ c.workers t.registry.world entry.session, t.registry.isFinished w = true := by
  rw [isTriggered_gate_iff, isFired_gate_iff]
  constructor
  · rintro ⟨body, hs⟩
    exact ⟨by simp [hs], (h.accounted e entry he).concluded body hs⟩
  · rintro ⟨hne, hdone⟩
    cases hs : entry.stage with
    | armed => exact absurd hs hne
    | stopping =>
      have := (h.sound.watchful.isDue_stopping_iff (List.mem_of_getElem? he) hs).mpr hdone
      rw [hdue] at this
      exact absurd this Bool.false_ne_true
    | concluded body => exact ⟨body, rfl⟩

/-- An entry that is not due has been triggered exactly if a stop has reached it or one of its
workers is done. -/
theorem Consistent.isTriggered_iff (h : Consistent c t) (he : t.registry.entries[e]? = some entry)
    (hdue : t.registry.isDue entry = false) : entry.stage.gate.isTriggered = true ↔
      e ∈ t.reached ∨
        ∃ w ∈ c.workers t.registry.world entry.session, t.registry.isFinished w = true := by
  have hacc := h.accounted e entry he
  rw [isTriggered_gate_iff]
  refine ⟨hacc.cause, ?_⟩
  rintro (hr | hf) hs
  · exact hacc.reached hr hs
  · have := (h.sound.watchful.isDue_armed_iff (List.mem_of_getElem? he) hs).mpr hf
    rw [hdue] at this
    exact absurd this Bool.false_ne_true

end Calls

/-- **Cleaned up once and never early.** Whatever has gone on, when no step is due: the gate of an
entry is triggered exactly if a stop has reached the entry or one of its workers is done; its
session was cleaned up for it once if its gate is triggered and all of its workers are done, and
else not at all; each of its workers was asked to stop for it once if its gate is triggered, and
else never; and nothing else was called for it. -/
theorem cleaned_up_once (hc : c.Steady) {world : σ} (hrun : Run c (idle world) t)
    (hsettled : Settled t.registry) (he : t.registry.entries[e]? = some entry) :
    let workers := c.workers t.registry.world entry.session
    (entry.stage.gate.isTriggered = true ↔
      e ∈ t.reached ∨ ∃ w ∈ workers, t.registry.isFinished w = true) ∧
    (t.callsFor e).count (.cleanup entry.session) =
      (if entry.stage.gate.isTriggered = true ∧ ∀ w ∈ workers, t.registry.isFinished w = true
        then 1 else 0) ∧
    (∀ w ∈ workers, (t.callsFor e).count (.halt w) =
      if entry.stage.gate.isTriggered = true then 1 else 0) ∧
    ∀ call ∈ t.callsFor e, call = .cleanup entry.session ∨ ∃ w ∈ workers, call = .halt w := by
  intro workers
  have h := (consistent_idle c world).run hc hrun
  have hentry := List.mem_of_getElem? he
  have hdue := hsettled entry hentry
  have hcalls := (h.accounted e entry he).calls
  refine ⟨h.isTriggered_iff he hdue, ?_, ?_, ?_⟩
  · rw [hcalls, count_cleanup_callsUpTo]
    exact ite_congr (propext (h.isFired_iff he hdue)) (fun _ => rfl) fun _ => rfl
  · intro w hw
    rw [hcalls]
    exact count_halt_callsUpTo (h.sound.watched entry hentry).counts.nodup hw
  · intro call hcall
    exact mem_callsUpTo (hcalls ▸ hcall)

/-- Two rehearsed sessions that share a worker. The other worker of the first goes on when it is
asked to stop, and the cleanup of the second breaks down. -/
def sharedWorld : Stagehands :=
  ⟨[⟨['a'], [0, 1], .returns none, true, 0, 0, none⟩,
    ⟨['b'], [0], .breaksDown ['x'], false, 0, 0, none⟩],
    [false, true], [0, 0]⟩

/-- The two are registered and a stop of the first begins. -/
def sharedBegun : Traffic Text Stagehands :=
  let hired := ((Registry.empty sharedWorld : Registry Text Stagehands).hire .fresh).2.hire .fresh
  let first := hired.2.enlisted Stagehands.contract ['a'] 0
  ⟨first.enlisted Stagehands.contract ['b'] 1, [⟨[0], [0], none⟩], [], []⟩

/-- The stop reaches the first and waits, and the second comes to its end by itself. -/
def sharedWaiting : Traffic Text Stagehands :=
  let reached := { sharedBegun.serve Stagehands.contract 0 fun c r => (Registry.reach c 0 r).2 with
    sweeps := [⟨[0], [], some ⟨0, true⟩⟩]
    reached := [0] }
  (reached.serve Stagehands.contract 1 fun c r => Registry.proceed c 1 r).serve Stagehands.contract 1
    fun c r => Registry.proceed c 1 r

theorem run_sharedBegun : Run Stagehands.contract (idle sharedWorld) sharedBegun := by
  refine .head (.deed (.hire .fresh rfl)) (.head (.deed (.hire .fresh rfl)) ?_)
  refine .head (.deed (.register ['a'] 0 (by decide) (by decide) rfl)) ?_
  refine .head (.deed (.register ['b'] 1 (by decide) (by decide) rfl)) ?_
  exact .single (.begin_one ['a'] rfl)

theorem run_sharedWaiting : Run Stagehands.contract sharedBegun sharedWaiting := by
  refine .head (.reach (show sharedBegun.sweeps = [] ++ ⟨[0], [0], none⟩ :: [] from rfl)) ?_
  refine .head (.due (e := 1) rfl rfl) ?_
  exact .single (.due (e := 1) rfl rfl)

/-- While the stop waits for the stubborn worker, the first session is not cleaned up, and the
second is. -/
theorem cleaned_up_once_shared :
    Run Stagehands.contract (idle sharedWorld) sharedWaiting ∧ Settled sharedWaiting.registry ∧
    (sharedWaiting.callsFor 0).count (.cleanup 0) = 0 ∧
    (sharedWaiting.callsFor 0).count (.halt 1) = 1 ∧
    (sharedWaiting.callsFor 1).count (.cleanup 1) = 1 ∧
    (sharedWaiting.callsFor 1).count (.halt 0) = 1 := by
  have hrun := run_sharedBegun.trans run_sharedWaiting
  have hsettled : Settled sharedWaiting.registry := by
    unfold Settled
    decide
  have hfirst := cleaned_up_once Stagehands.steady_contract hrun hsettled (e := 0) rfl
  have hsecond := cleaned_up_once Stagehands.steady_contract hrun hsettled (e := 1) rfl
  exact ⟨hrun, hsettled, hfirst.2.1, hfirst.2.2.1 1 (by decide), hsecond.2.1,
    hsecond.2.2.1 0 (by decide)⟩

/-! ## Settling and stopping are runs -/

/-- Doing all that is due is a run of traffic. -/
theorem run_settle (c : Contract κ σ) (t : Traffic κ σ) :
    ∃ ledger, Run c t { t with registry := settle c t.registry, ledger := ledger } :=
  settle_induction (P := fun r => ∃ ledger, Run c t { t with registry := r, ledger := ledger })
    ⟨t.ledger, .refl⟩ fun _ _ _ ⟨_, hrun⟩ he hdue => ⟨_, hrun.tail (.due he hdue)⟩

/-- The latest stop reaches the next entry, and goes on or breaks down when the cleanup is over. -/
theorem run_visit {before : List Sweep} {chosen ahead : List EntryId} {body : Body}
    (hsweep : t.sweeps = before ++ [⟨chosen, e :: ahead, none⟩])
    (hover : (settle c (Registry.reach c e t.registry).2).stage? e = some (.concluded body)) :
    ∃ t', Run c t t' ∧ t'.registry = settle c (Registry.reach c e t.registry).2 ∧
      t'.sweeps = before ++ if (Registry.reach c e t.registry).1.breaksAt body then []
        else [⟨chosen, ahead, none⟩] := by
  have hreach : Step c t _ := .reach hsweep
  obtain ⟨ledger, hsettle⟩ := run_settle c { t.serve c e fun c r => (Registry.reach c e r).2 with
    sweeps := before ++ [⟨chosen, ahead, some (Registry.reach c e t.registry).1⟩]
    reached := t.reached ++ [e] }
  have hover' : (settle c (Registry.reach c e t.registry).2).stage?
      (Registry.reach c e t.registry).1.entry =
      some (.concluded body) := by
    rw [entry_reach]
    exact hover
  exact ⟨_, .tail (.head hreach hsettle) (.pass rfl hover'), rfl, by simp⟩

/-- A stop of one session that returns is a run. -/
theorem run_stopOne {key : κ} {reply : StopReply} (h : stopOne c key t.registry = some (reply, r)) :
    ∃ t', Run c t t' ∧ t'.registry = r ∧ t'.sweeps = t.sweeps := by
  unfold stopOne beginStop at h
  cases hbound : t.registry.boundTo? key with
  | none =>
    obtain ⟨-, rfl⟩ : StopReply.failed (.sessionUnknown (c.name key)) = reply ∧ t.registry = r := by
      simpa [hbound] using h
    exact ⟨t, .refl, rfl, rfl⟩
  | some e =>
    simp only [hbound] at h
    have hbegin : Step c t { t with sweeps := t.sweeps ++ [⟨[e], [e], none⟩] } :=
      .begin_one key hbound
    obtain ⟨body, hover, -, rfl⟩ := of_finishStop h
    rw [entry_reach] at hover ⊢
    obtain ⟨t', hrun, hregistry, hsweeps⟩ := run_visit
      (t := { t with sweeps := t.sweeps ++ [⟨[e], [e], none⟩] }) rfl hover
    cases hb : (Registry.reach c e t.registry).1.breaksAt body with
    | true => exact ⟨t', .head hbegin hrun, by simpa using hregistry, by simpa [hb] using hsweeps⟩
    | false =>
      have hfinish : Step c t' _ := .finish (by simpa [hb] using hsweeps)
      exact ⟨_, .tail (.head hbegin hrun) hfinish, by simp [hregistry], by simp⟩

/-- The latest stop has visited the entries that were ahead of it, or broken down at one of them. -/
theorem run_stopEach {before : List Sweep} {chosen ahead : List EntryId} {reply : Except Text Unit}
    (hsweep : t.sweeps = before ++ [⟨chosen, ahead, none⟩])
    (h : stopEach c ahead t.registry = some (reply, r)) :
    ∃ t', Run c t t' ∧ t'.registry = r ∧
      t'.sweeps = before ++ if reply.isOk then [⟨chosen, [], none⟩] else [] := by
  induction ahead generalizing t with
  | nil =>
    obtain ⟨rfl, rfl⟩ : .ok () = reply ∧ t.registry = r := by simpa [stopEach] using h
    exact ⟨t, .refl, rfl, by simpa [Except.isOk, Except.toBool] using hsweep⟩
  | cons e ahead ih =>
    obtain ⟨body, hover, hrest⟩ := stopEach_cons h
    obtain ⟨t', hrun, hregistry, hsweeps⟩ := run_visit hsweep hover
    cases hb : (Registry.reach c e t.registry).1.breaksAt body with
    | true =>
      simp only [hb, if_true] at hrest hsweeps
      obtain ⟨rfl, message, rfl⟩ := hrest
      exact ⟨t', hrun, hregistry, by simpa [Except.isOk, Except.toBool] using hsweeps⟩
    | false =>
      simp only [hb, Bool.false_eq_true, if_false] at hrest hsweeps
      obtain ⟨t'', hrun', hregistry', hsweeps'⟩ := ih hsweeps (hregistry ▸ hrest)
      exact ⟨t'', hrun.trans hrun', hregistry', hsweeps'⟩

/-- A stop of all sessions that returns is a run. -/
theorem run_stopAll {reply : Except Text Nat} (h : stopAll c t.registry = some (reply, r)) :
    ∃ t', Run c t t' ∧ t'.registry = r ∧ t'.sweeps = t.sweeps := by
  have hbegin : Step c t { t with sweeps := t.sweeps ++
      [⟨t.registry.bound.map Prod.snd, t.registry.bound.map Prod.snd, none⟩] } := .begin_all (.refl _)
  unfold stopAll at h
  cases heach : stopEach c (t.registry.bound.map Prod.snd) t.registry with
  | none => simp [heach] at h
  | some result =>
    obtain ⟨outcome, r'⟩ := result
    obtain ⟨t', hrun, hregistry, hsweeps⟩ := run_stopEach (t := { t with sweeps := t.sweeps ++
      [⟨t.registry.bound.map Prod.snd, t.registry.bound.map Prod.snd, none⟩] }) rfl heach
    cases outcome with
    | error message =>
      obtain ⟨-, rfl⟩ : .error message = reply ∧ r' = r := by simpa [heach] using h
      exact ⟨t', .head hbegin hrun, hregistry, by simpa [Except.isOk, Except.toBool] using hsweeps⟩
    | ok _ =>
      have hfinish : Step c t' _ := .finish (by simpa [Except.isOk, Except.toBool] using hsweeps)
      refine ⟨_, .tail (.head hbegin hrun) hfinish, ?_, by simp⟩
      have hr : .ok t.registry.bound.length = reply ∧
          (t.registry.bound.map Prod.snd).foldl remove r' = r := by simpa [heach] using h
      rw [← hr.2, hregistry]

end Traffic

end MediaProxy.Registry
