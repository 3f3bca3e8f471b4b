import Mathlib.Data.Set.Insert
import MediaProxy.Proofs.Registry.Requests

/-!
# Compliant sessions

Sessions are **compliant** when their workers are done as soon as they are asked to stop, and when
their cleanups come to something and leave the registry alone (`Contract.Compliant`). Then a stop
never waits, and between requests a registry is at rest (`AtRest`): every entry is armed with all of
its workers at work, or over with all of them done.

What a request sets off ends some entries (`Passes`): those that were asked for, and those that the
completion of a worker reaches. Two facts carry this from one step that is due to the next. No
worker is done but by what covers the registry, a set of workers that with one worker of an entry
holds them all (`Covers`); and an entry that has been triggered has all of its workers done
(`Tidy`). The order in which steps are taken does not matter for either.
-/

namespace MediaProxy

/-- A **compliant** contract. -/
structure Contract.Compliant {κ σ : Type} (c : Contract κ σ) : Prop where
  start : ∀ n (r : Registry κ σ) m, c.workers (c.start n r) m = c.workers r.world m
  halt : ∀ w done world, (c.halt w done world).1 = true ∧
    ∀ m, c.workers (c.halt w done world).2 m = c.workers world m
  cleanup : ∀ n (r : Registry κ σ), ∃ outcome world,
    c.cleanup n r = (.returns outcome, { r with world := world }) ∧
    ∀ m, c.workers world m = c.workers r.world m

namespace Contract.Compliant

variable {κ σ : Type} {c : Contract κ σ}

theorem faithful [DecidableEq κ] (h : c.Compliant) : c.Faithful := by
  refine ⟨h.start, fun w done world => (h.halt w done world).2, ?_⟩
  intro n r
  obtain ⟨outcome, world, heq, hworkers⟩ := h.cleanup n r
  rw [heq]
  exact .single (.deed (.change world fun entry _ => hworkers entry.session))

theorem quiet (h : c.Compliant) : c.Quiet := by
  intro n r
  obtain ⟨outcome, world, heq, -⟩ := h.cleanup n r
  rw [heq]

/-- To keep a chronicle is no matter of compliance. -/
theorem chronicled (h : c.Compliant) : c.chronicled.Compliant := by
  refine ⟨fun n r => h.start n r.plain, fun w done world => h.halt w done world.1, ?_⟩
  intro n r
  obtain ⟨outcome, world, heq, hworkers⟩ := h.cleanup n r.plain
  refine ⟨outcome, (world, { r.world.2 with
    cleanups := r.world.2.cleanups ++ [(n, .returns outcome)] }), ?_, hworkers⟩
  simp only [Contract.chronicled, heq]
  rfl

end Contract.Compliant

/-- What the cleanup of a registered session came to, once it is over. -/
def Entry.ended {κ : Type} (entry : Entry κ) : Option (SessionId × Body) :=
  match entry.stage with
  | .concluded body => some (entry.session, body)
  | _ => none

namespace Registry

variable {κ σ : Type} {c : Contract κ σ} {r r' r'' : Registry κ (σ × Chronicle)} {e : EntryId}
  {entry : Entry κ} {asked : Set EntryId} {spread : Set WorkerId}

/-! ## Asking workers to stop -/

/-- Some workers were asked to stop, and are **halted**. -/
structure Halts (c : Contract κ σ) (ws : List WorkerId) (r r' : Registry κ (σ × Chronicle)) :
    Prop where
  finished : ∀ w, r'.isFinished w = true ↔ r.isFinished w = true ∨ (w ∈ ws ∧ w < r.latches.length)
  latches : r'.latches.length = r.latches.length
  workers : ∀ n, c.workers r'.world.1 n = c.workers r.world.1 n
  chronicle : r'.world.2 = r.world.2

/-- To ask one worker to stop halts it. -/
theorem halts_halt (hc : c.Compliant) (w : WorkerId) : Halts c [w] r (halt c.chronicled r w) := by
  have hworld := (hc.halt w (r.isFinished w) r.world.1)
  rw [halt_eq, if_pos (show (c.chronicled.halt w (r.isFinished w) r.world).1 = true from hworld.1)]
  refine ⟨?_, by simp, fun n => ?_, ?_⟩
  · intro v
    rw [isFinished_finish, Bool.or_eq_true, Bool.and_eq_true, decide_eq_true_eq, decide_eq_true_eq,
      List.mem_singleton]
    exact or_congr Iff.rfl (and_congr_right fun hv => by rw [hv])
  · rw [world_finish]
    exact hworld.2 n
  · rw [world_finish]
    rfl

/-- To ask some workers to stop halts them. -/
theorem halts_foldl_halt (hc : c.Compliant) (ws : List WorkerId) :
    Halts c ws r (ws.foldl (halt c.chronicled) r) := by
  induction ws generalizing r with
  | nil => exact ⟨by simp, rfl, fun _ => rfl, rfl⟩
  | cons w ws ih =>
    have hfirst := halts_halt (r := r) hc w
    have hrest := ih (r := halt c.chronicled r w)
    refine ⟨?_, hrest.latches.trans hfirst.latches,
      fun n => (hrest.workers n).trans (hfirst.workers n),
      hrest.chronicle.trans hfirst.chronicle⟩
    intro v
    rw [List.foldl_cons, hrest.finished, hfirst.finished, hfirst.latches, List.mem_singleton,
      List.mem_cons]
    tauto

/-- An entry that is triggered has its workers halted. -/
theorem halts_trigger (hc : c.Compliant) (he : r.entries[e]? = some entry) :
    Halts c (c.workers r.world.1 entry.session) r (trigger c.chronicled e r) := by
  obtain ⟨hfinished, hlatches, hworkers, hchronicle⟩ :=
    halts_foldl_halt (r := r.setStage e .stopping) hc (c.workers r.world.1 entry.session)
  rw [trigger_eq he]
  exact ⟨hfinished, hlatches, hworkers, hchronicle⟩

/-! ## The two steps of an entry -/

/-- A step of one entry **restages** a registry: the entry is at another stage, no workers are done
by that but those of its session, and the chronicle holds what the entry has come to. -/
structure Restages (c : Contract κ σ) (e : EntryId) (entry : Entry κ) (stage : Stage)
    (r r' : Registry κ (σ × Chronicle)) : Prop where
  entries : r'.entries = (r.setStage e stage).entries
  bound : r'.bound = r.bound
  latches : r'.latches.length = r.latches.length
  workers : ∀ n, c.workers r'.world.1 n = c.workers r.world.1 n
  finished : ∀ w, r.isFinished w = true → r'.isFinished w = true
  news : ∀ w, r'.isFinished w = true →
    r.isFinished w = true ∨ w ∈ c.workers r.world.1 entry.session
  starts : r'.world.2.starts = r.world.2.starts
  cleanups : r'.world.2.cleanups =
    r.world.2.cleanups ++ (Entry.ended { entry with stage := stage }).toList

/-- To trigger an entry takes it to stopping, and finishes its workers at most. -/
theorem restages_trigger (hc : c.Compliant) (he : r.entries[e]? = some entry) :
    Restages c e entry .stopping r (trigger c.chronicled e r) := by
  obtain ⟨hfinished, hlatches, hworkers, hchronicle⟩ := halts_trigger hc he
  exact ⟨entries_trigger he, bound_trigger, hlatches, hworkers,
    fun w hw => (hfinished w).mpr (.inl hw), fun w hw => ((hfinished w).mp hw).imp_right And.left,
    by rw [hchronicle], by simp [hchronicle, Entry.ended]⟩

/-- To conclude an entry takes it to its end, and finishes nobody. -/
theorem restages_conclude (hc : c.Compliant) (he : r.entries[e]? = some entry) :
    ∃ outcome,
      Restages c e entry (.concluded (.returns outcome)) r (conclude c.chronicled e r) := by
  obtain ⟨outcome, world, heq, hworkers⟩ := hc.cleanup entry.session r.plain
  refine ⟨outcome, ?_⟩
  rw [conclude_eq he]
  simp only [Contract.chronicled, heq]
  exact ⟨rfl, rfl, rfl, hworkers, fun _ hw => hw, fun _ => .inl, rfl, rfl⟩

/-! ## Tidy registries -/

/-- A **tidy** registry: what was triggered has its workers done, what is over came to something,
and the chronicle holds one start for each entry and one cleanup for each that is over. -/
structure Tidy (c : Contract κ σ) (r : Registry κ (σ × Chronicle)) : Prop where
  watchful : Watchful c.chronicled r
  keys_nodup : r.keys.Nodup
  filed : ∀ b ∈ r.bound, ∃ entry, r.entries[b.2]? = some entry ∧ entry.key = b.1
  triggered : ∀ entry ∈ r.entries, entry.stage ≠ .armed →
    ∀ w ∈ c.workers r.world.1 entry.session, r.isFinished w = true
  concluded : ∀ entry ∈ r.entries, ∀ body, entry.stage = .concluded body →
    ∃ outcome, body = .returns outcome
  starts : r.world.2.starts = r.entries.map Entry.session
  cleanups : r.world.2.cleanups.Perm (r.entries.filterMap Entry.ended)

/-- An entry after a change of stage is one that there was, or the one that has changed. -/
theorem mem_or_eq_of_mem_setStage {entry' : Entry κ} {stage : Stage}
    (he : r.entries[e]? = some entry) (h : entry' ∈ (r.setStage e stage).entries) :
    entry' ∈ r.entries ∨ entry' = { entry with stage := stage } := by
  obtain ⟨i, hi⟩ := List.mem_iff_getElem?.mp h
  rw [getElem?_setStage, Option.map_eq_some_iff] at hi
  obtain ⟨old, hold, rfl⟩ := hi
  by_cases hei : e = i
  · subst hei
    obtain rfl := Option.some.inj (he.symm.trans hold)
    exact .inr (if_pos rfl)
  · rw [if_neg hei]
    exact .inl (List.mem_of_getElem? hold)

/-- Entries keep their sessions, whatever their stages. -/
theorem map_session_setStage (stage : Stage) :
    (r.setStage e stage).entries.map Entry.session = r.entries.map Entry.session := by
  refine List.ext_getElem? fun i => ?_
  rw [List.getElem?_map, List.getElem?_map, getElem?_setStage]
  cases r.entries[i]? with
  | none => rfl
  | some entry =>
    simp only [Option.map_some]
    split <;> rfl

/-- A new stage of an entry that is not over adds what the entry comes to by it. -/
theorem perm_ended_modify (entries : List (Entry κ)) (he : entries[e]? = some entry)
    (hnone : entry.ended = none) (stage : Stage) :
    ((entries.modify e fun entry => { entry with stage := stage }).filterMap Entry.ended).Perm
      (entries.filterMap Entry.ended ++ (Entry.ended { entry with stage := stage }).toList) := by
  induction entries generalizing e with
  | nil => simp at he
  | cons first rest ih =>
    cases e with
    | zero =>
      obtain rfl : first = entry := by simpa using he
      rw [List.modify_zero_cons, List.filterMap_cons, List.filterMap_cons, hnone]
      cases hended : Entry.ended { first with stage := stage } with
      | none => simp
      | some x => exact (List.perm_append_singleton x _).symm
    | succ e =>
      have := ih (by simpa using he)
      rw [List.modify_succ_cons, List.filterMap_cons, List.filterMap_cons]
      cases first.ended with
      | none => exact this
      | some x => exact this.cons x

/-- A step keeps a registry tidy if the workers of the entry are done then. -/
theorem Tidy.restage {stage : Stage} (h : Tidy c r) (hr : Restages c e entry stage r r')
    (hwatchful : Watchful c.chronicled r') (he : r.entries[e]? = some entry)
    (hnone : entry.ended = none)
    (hdone : ∀ w ∈ c.workers r.world.1 entry.session, r'.isFinished w = true)
    (hbody : ∀ body, stage = .concluded body → ∃ outcome, body = .returns outcome) : Tidy c r' := by
  refine {
    watchful := hwatchful
    keys_nodup := ?keys_nodup
    filed := ?filed
    triggered := ?triggered
    concluded := ?concluded
    starts := ?starts
    cleanups := ?cleanups }
  case keys_nodup =>
    rw [keys, hr.bound]
    exact h.keys_nodup
  case filed =>
    rw [hr.bound, hr.entries]
    intro b hb
    obtain ⟨old, hold, hkey⟩ := h.filed b hb
    refine ⟨_, by rw [getElem?_setStage, hold, Option.map_some], ?_⟩
    split <;> exact hkey
  case triggered =>
    rw [hr.entries]
    intro entry' hentry' hstage w hw
    rw [hr.workers] at hw
    rcases mem_or_eq_of_mem_setStage he hentry' with hold | rfl
    · exact hr.finished w (h.triggered entry' hold hstage w hw)
    · exact hdone w hw
  case concluded =>
    rw [hr.entries]
    intro entry' hentry' body hstage
    rcases mem_or_eq_of_mem_setStage he hentry' with hold | rfl
    · exact h.concluded entry' hold body hstage
    · exact hbody body hstage
  case starts =>
    rw [hr.starts, hr.entries, map_session_setStage]
    exact h.starts
  case cleanups =>
    rw [hr.cleanups, hr.entries]
    exact (h.cleanups.append_right _).trans (perm_ended_modify r.entries he hnone stage).symm

/-! ## Entries that end -/

/-- A set of workers that **covers** a registry: it has every worker that is done, and with one
worker of a registered session all of them. -/
structure Covers (c : Contract κ σ) (spread : Set WorkerId) (r : Registry κ (σ × Chronicle)) :
    Prop where
  finished : ∀ w, r.isFinished w = true → w ∈ spread
  closed : ∀ entry ∈ r.entries, ∀ v ∈ c.workers r.world.1 entry.session, v ∈ spread →
    ∀ w ∈ c.workers r.world.1 entry.session, w ∈ spread

/-- How a stage may **move**: it never goes back, and it leaves `armed` for a cause only. -/
structure Moves (cause : Prop) (stage stage' : Stage) : Prop where
  kept : ∀ body, stage = .concluded body → stage' = stage
  triggered : stage ≠ .armed → stage' ≠ .armed
  cause : stage' ≠ .armed → stage ≠ .armed ∨ cause

theorem Moves.refl (cause : Prop) (stage : Stage) : Moves cause stage stage :=
  ⟨fun _ _ => rfl, id, .inl⟩

theorem Moves.trans {cause : Prop} {s s' s'' : Stage} (h : Moves cause s s')
    (h' : Moves cause s' s'') : Moves cause s s'' := by
  refine ⟨?_, fun hne => h'.triggered (h.triggered hne), ?_⟩
  · intro body hbody
    have hsame := h.kept body hbody
    exact (h'.kept body (hsame.trans hbody)).trans hsame
  · intro hne
    rcases h'.cause hne with hwas | hcause
    · exact h.cause hwas
    · exact .inr hcause

/-- Some entries have **passed** on to their end: those asked for, and those that had a worker among
some. All else is as it was, up to these workers. -/
structure Passes (c : Contract κ σ) (asked : Set EntryId) (spread : Set WorkerId)
    (r r' : Registry κ (σ × Chronicle)) : Prop where
  bound : r'.bound = r.bound
  length : r'.entries.length = r.entries.length
  entries : ∀ (e : EntryId) (entry : Entry κ), r.entries[e]? = some entry →
    ∃ stage, r'.entries[e]? = some { entry with stage := stage } ∧
      Moves (e ∈ asked ∨ ∃ w ∈ c.workers r.world.1 entry.session, w ∈ spread) entry.stage stage
  latches : r'.latches.length = r.latches.length
  workers : ∀ n, c.workers r'.world.1 n = c.workers r.world.1 n
  finished : ∀ w, r.isFinished w = true → r'.isFinished w = true
  spread : ∀ w, r'.isFinished w = true → w ∈ spread

theorem Passes.refl (asked : Set EntryId) (h : Covers c spread r) : Passes c asked spread r r :=
  ⟨rfl, rfl, fun _ entry he => ⟨entry.stage, he, .refl _ _⟩, rfl, fun _ => rfl, fun _ h => h,
    h.finished⟩

theorem Passes.trans (h : Passes c asked spread r r') (h' : Passes c asked spread r' r'') :
    Passes c asked spread r r'' := by
  refine ⟨h'.bound.trans h.bound, h'.length.trans h.length, ?_, h'.latches.trans h.latches,
    fun n => (h'.workers n).trans (h.workers n), fun w hw => h'.finished w (h.finished w hw),
    h'.spread⟩
  intro e entry he
  obtain ⟨stage, he', hmoves⟩ := h.entries e entry he
  obtain ⟨stage', he'', hmoves'⟩ := h'.entries e _ he'
  simp only [h.workers] at hmoves'
  exact ⟨stage', he'', hmoves.trans hmoves'⟩

/-- Whose entry it is, is seen after as before. -/
theorem Passes.was (h : Passes c asked spread r r') {entry' : Entry κ}
    (he' : r'.entries[e]? = some entry') :
    ∃ entry, r.entries[e]? = some entry ∧ entry'.session = entry.session := by
  have hlt : e < r.entries.length := h.length ▸ (List.getElem?_eq_some_iff.mp he').1
  obtain ⟨stage, hsame, -⟩ := h.entries e _ (List.getElem?_eq_getElem hlt)
  obtain rfl := Option.some.inj (he'.symm.trans hsame)
  exact ⟨_, List.getElem?_eq_getElem hlt, rfl⟩

/-- A set of workers goes on covering a registry when some entries have passed on. -/
theorem Passes.covers (h : Passes c asked spread r r') (hcovers : Covers c spread r) :
    Covers c spread r' := by
  refine ⟨h.spread, ?_⟩
  intro entry' hentry'
  obtain ⟨e, he'⟩ := List.mem_iff_getElem?.mp hentry'
  obtain ⟨entry, he, hsession⟩ := h.was he'
  rw [h.workers, hsession]
  exact hcovers.closed entry (List.mem_of_getElem? he)

/-- One entry that has moved for a cause has passed on. -/
theorem Restages.passes {stage : Stage} (hr : Restages c e entry stage r r')
    (hcovers : Covers c spread r) (he : r.entries[e]? = some entry)
    (hall : ∀ w ∈ c.workers r.world.1 entry.session, w ∈ spread)
    (hmoves : Moves (e ∈ asked ∨ ∃ w ∈ c.workers r.world.1 entry.session, w ∈ spread)
      entry.stage stage) : Passes c asked spread r r' := by
  refine ⟨hr.bound, by rw [hr.entries, length_setStage], ?_, hr.latches, hr.workers, hr.finished,
    fun w hw => (hr.news w hw).elim (hcovers.finished w) (hall w)⟩
  intro i old hold
  rw [hr.entries, getElem?_setStage, hold, Option.map_some]
  by_cases hei : e = i
  · subst hei
    obtain rfl := Option.some.inj (he.symm.trans hold)
    exact ⟨stage, by rw [if_pos rfl], hmoves⟩
  · exact ⟨old.stage, by rw [if_neg hei], .refl _ _⟩

/-- An entry that is triggered for a cause has passed on. -/
theorem passes_trigger (hc : c.Compliant) (hcovers : Covers c spread r)
    (he : r.entries[e]? = some entry) (harmed : entry.stage = .armed)
    (hall : ∀ w ∈ c.workers r.world.1 entry.session, w ∈ spread)
    (hcause : e ∈ asked ∨ ∃ w ∈ c.workers r.world.1 entry.session, w ∈ spread) :
    Passes c asked spread r (trigger c.chronicled e r) :=
  (restages_trigger hc he).passes hcovers he hall
    ⟨by simp [harmed], by simp, fun _ => .inr hcause⟩

/-- An entry that is concluded has passed on. -/
theorem passes_conclude (hc : c.Compliant) (hcovers : Covers c spread r)
    (he : r.entries[e]? = some entry) (hstopping : entry.stage = .stopping)
    (hall : ∀ w ∈ c.workers r.world.1 entry.session, w ∈ spread) :
    Passes c asked spread r (conclude c.chronicled e r) := by
  obtain ⟨outcome, hr⟩ := restages_conclude hc he
  exact hr.passes hcovers he hall ⟨by simp [hstopping], by simp, by simp [hstopping]⟩

/-! ## Registries at rest -/

/-- A tidy registry **at rest**: no step is due. -/
structure AtRest (c : Contract κ σ) (r : Registry κ (σ × Chronicle)) : Prop where
  tidy : Tidy c r
  settled : Settled r

/-- What has been triggered is over. -/
theorem AtRest.concluded (h : AtRest c r) (hentry : entry ∈ r.entries)
    (hne : entry.stage ≠ .armed) : ∃ outcome, entry.stage = .concluded (.returns outcome) := by
  cases hs : entry.stage with
  | armed => exact absurd hs hne
  | stopping =>
    have hdue := (h.tidy.watchful.isDue_stopping_iff hentry hs).mpr
      (h.tidy.triggered entry hentry hne)
    rw [h.settled entry hentry] at hdue
    cases hdue
  | concluded body =>
    obtain ⟨outcome, rfl⟩ := h.tidy.concluded entry hentry body hs
    exact ⟨outcome, rfl⟩

/-- What has a worker done has been triggered. -/
theorem AtRest.not_armed (h : AtRest c r) (hentry : entry ∈ r.entries) {w : WorkerId}
    (hw : w ∈ c.workers r.world.1 entry.session) (hdone : r.isFinished w = true) :
    entry.stage ≠ .armed := by
  intro hs
  have hdue := (h.tidy.watchful.isDue_armed_iff hentry hs).mpr ⟨w, hw, hdone⟩
  rw [h.settled entry hentry] at hdue
  cases hdue

/-- There is nothing to settle at rest. -/
theorem AtRest.settle_eq (h : AtRest c r) : settle c.chronicled r = r :=
  advances_of_settled h.settled _

/-! ## Settling -/

variable [DecidableEq κ]

/-- A registry stays tidy when an entry is triggered. -/
theorem Tidy.trigger (h : Tidy c r) (hc : c.Compliant) (he : r.entries[e]? = some entry)
    (harmed : entry.stage = .armed) : Tidy c (trigger c.chronicled e r) := by
  have hemployed := (h.watchful.minded entry (List.mem_of_getElem? he)).tallies.employed
  exact h.restage (restages_trigger hc he) (h.watchful.trigger hc.chronicled.faithful e) he
    (by rw [Entry.ended, harmed])
    (fun w hw => ((halts_trigger hc he).finished w).mpr (.inr ⟨hw, hemployed w hw⟩))
    fun _ hs => by cases hs

/-- A registry stays tidy when an entry is concluded. -/
theorem Tidy.conclude (h : Tidy c r) (hc : c.Compliant) (he : r.entries[e]? = some entry)
    (hstopping : entry.stage = .stopping) : Tidy c (conclude c.chronicled e r) := by
  obtain ⟨outcome, hr⟩ := restages_conclude hc he
  have hdone := h.triggered entry (List.mem_of_getElem? he) (by simp [hstopping])
  exact h.restage hr (h.watchful.conclude hc.chronicled.faithful e) he
    (by rw [Entry.ended, hstopping]) (fun w hw => hr.finished w (hdone w hw))
    fun body hs => ⟨outcome, (Stage.concluded.inj hs).symm⟩

/-- **Settling** brings a tidy registry to rest, and ends no entries but such as have a worker among
those that cover it. -/
theorem Tidy.settle (h : Tidy c r) (hc : c.Compliant) (asked : Set EntryId)
    (hcovers : Covers c spread r) : AtRest c (settle c.chronicled r) ∧
      Passes c asked spread r (settle c.chronicled r) := by
  have hsettle : Tidy c (Registry.settle c.chronicled r) ∧
      Passes c asked spread r (Registry.settle c.chronicled r) := by
    refine settle_induction (P := fun r' => Tidy c r' ∧ Passes c asked spread r r')
      ⟨h, .refl asked hcovers⟩ ?_
    rintro r' e entry ⟨h', hpasses⟩ he hdue
    have hcovers' := hpasses.covers hcovers
    have hmem := List.mem_of_getElem? he
    cases hs : entry.stage with
    | armed =>
      obtain ⟨v, hv, hdone⟩ := (h'.watchful.isDue_armed_iff hmem hs).mp hdue
      have hspread := hcovers'.finished v hdone
      rw [proceed_of_armed (hs ▸ stage?_of_getElem? he)]
      exact ⟨h'.trigger hc he hs, hpasses.trans (passes_trigger hc hcovers' he hs
        (hcovers'.closed entry hmem v hv hspread) (.inr ⟨v, hv, hspread⟩))⟩
    | stopping =>
      rw [proceed_of_stopping (hs ▸ stage?_of_getElem? he)]
      have hdone := h'.triggered entry hmem (by simp [hs])
      exact ⟨h'.conclude hc he hs, hpasses.trans (passes_conclude hc hcovers' he hs
        fun w hw => hcovers'.finished w (hdone w hw))⟩
    | concluded body =>
      rw [not_isDue_concluded hs] at hdue
      cases hdue
  exact ⟨⟨hsettle.1, settled_settle hc.chronicled.quiet r⟩, hsettle.2⟩

/-! ## Stopping -/

/-- What a stop comes upon: an entry that is over after it has been reached. If it was over before,
nothing has happened. -/
theorem AtRest.visit (h : AtRest c r) (hc : c.Compliant) (hcovers : Covers c spread r)
    (he : r.entries[e]? = some entry) (hasked : e ∈ asked)
    (hall : ∀ w ∈ c.workers r.world.1 entry.session, w ∈ spread) :
    let r' := Registry.settle c.chronicled (reach c.chronicled e r).2
    AtRest c r' ∧ Passes c asked spread r r' ∧
    (reach c.chronicled e r).1 = ⟨e, decide (entry.stage = .armed)⟩ ∧
    (entry.stage ≠ .armed → r' = r) ∧
    ∃ outcome, r'.stage? e = some (.concluded (.returns outcome)) := by
  intro r'
  have hmem := List.mem_of_getElem? he
  have hstage := stage?_of_getElem? he
  by_cases hs : entry.stage = .armed
  · have htrigger := passes_trigger hc hcovers he hs hall (.inl hasked)
    have hreach := reach_of_armed (c := c.chronicled) (hs ▸ hstage)
    obtain ⟨hrest, hsettle⟩ := (h.tidy.trigger hc he hs).settle hc asked (htrigger.covers hcovers)
    have hr' : r' = Registry.settle c.chronicled (trigger c.chronicled e r) := by
      rw [← show (reach c.chronicled e r).2 = trigger c.chronicled e r by rw [hreach]]
    rw [hr', hreach, hs]
    refine ⟨hrest, htrigger.trans hsettle, rfl, fun hne => absurd rfl hne, ?_⟩
    -- The entry is stopping after the trigger, so when all is at rest it is over.
    have hstopping : (trigger c.chronicled e r).entries[e]? =
        some { entry with stage := .stopping } := by
      rw [entries_trigger he, getElem?_setStage, he, Option.map_some, if_pos rfl]
    obtain ⟨stage, he', hmoves⟩ := hsettle.entries e _ hstopping
    obtain ⟨outcome, hover⟩ := hrest.concluded (List.mem_of_getElem? he')
      (hmoves.triggered (by simp))
    exact ⟨outcome, (stage?_of_getElem? he').trans (congrArg some hover)⟩
  · have hnot : r.stage? e ≠ some .armed := by simpa [hstage] using hs
    have hreach := reach_of_not_armed (c := c.chronicled) hnot
    have hr' : r' = r := by
      show Registry.settle c.chronicled (reach c.chronicled e r).2 = r
      rw [hreach, h.settle_eq]
    rw [hr', hreach]
    obtain ⟨outcome, hover⟩ := h.concluded hmem hs
    exact ⟨h, .refl asked hcovers, by simp [hs], fun _ => rfl, outcome, by rw [hstage, hover]⟩

omit [DecidableEq κ] in
/-- A cleanup that comes to something breaks no stop down. -/
theorem stopEach_of_returns {c : Contract κ σ} {r : Registry κ σ} {rest : List EntryId}
    {outcome : Outcome}
    (hover : (Registry.settle c (reach c e r).2).stage? e = some (.concluded (.returns outcome))) :
    stopEach c (e :: rest) r = stopEach c rest (Registry.settle c (reach c e r).2) := by
  rw [stopEach]
  simp only [hover]
  cases outcome <;> cases hown : (reach c e r).1.own <;> simp [Stop.reply, hown]

/-- A stop of several sessions ends their entries and comes through. -/
theorem AtRest.stopEach (h : AtRest c r) (hc : c.Compliant) (hcovers : Covers c spread r)
    {chosen : List EntryId} (hchosen : ∀ e ∈ chosen, e ∈ asked ∧
      ∃ entry, r.entries[e]? = some entry ∧ ∀ w ∈ c.workers r.world.1 entry.session, w ∈ spread) :
    ∃ r', stopEach c.chronicled chosen r = some (.ok (), r') ∧ AtRest c r' ∧
      Passes c asked spread r r' ∧
      ∀ e ∈ chosen, ∃ entry, r'.entries[e]? = some entry ∧ entry.stage ≠ .armed := by
  induction chosen generalizing r with
  | nil => exact ⟨r, rfl, h, .refl asked hcovers, by simp⟩
  | cons e rest ih =>
    obtain ⟨hasked, entry, he, hall⟩ := hchosen e List.mem_cons_self
    obtain ⟨hvisit, hpasses, -, -, outcome, hover⟩ := h.visit hc hcovers he hasked hall
    rw [stopEach_of_returns hover]
    generalize Registry.settle c.chronicled (reach c.chronicled e r).2 = r₁ at *
    -- Stages change on the way, sessions do not, so what was asked for is still there for the rest.
    have hrest : ∀ e ∈ rest, e ∈ asked ∧ ∃ entry, r₁.entries[e]? = some entry ∧
        ∀ w ∈ c.workers r₁.world.1 entry.session, w ∈ spread := by
      intro e' he'
      obtain ⟨hasked', entry', hentry', hall'⟩ := hchosen e' (List.mem_cons_of_mem e he')
      obtain ⟨stage, hafter, -⟩ := hpasses.entries e' entry' hentry'
      exact ⟨hasked', _, hafter, by rwa [hpasses.workers]⟩
    obtain ⟨r', heq, hrest', hpasses', hover'⟩ := ih hvisit (hpasses.covers hcovers) hrest
    refine ⟨r', heq, hrest', hpasses.trans hpasses', ?_⟩
    intro e' he'
    rcases List.mem_cons.mp he' with rfl | he'
    · obtain ⟨entry₁, hentry₁, hstage⟩ := Option.map_eq_some_iff.mp hover
      obtain ⟨stage, hafter, hmoves⟩ := hpasses'.entries e' entry₁ hentry₁
      exact ⟨_, hafter, hmoves.triggered (by simp [hstage])⟩
    · exact hover' e' he'

/-! ## Keys -/

omit [DecidableEq κ] in
/-- A registry stays tidy when keys are dropped. -/
theorem Tidy.under (h : Tidy c r) (p : κ × EntryId → Bool) :
    Tidy c { r with bound := r.bound.filter p } := by
  refine { h with
    watchful := ⟨h.watchful.filed.frame _ _ _, ?bound_lt, ?minded⟩
    keys_nodup := ?keys_nodup
    filed := ?filed }
  case bound_lt => exact fun b hb => h.watchful.bound_lt b (List.mem_of_mem_filter hb)
  case minded => exact fun entry hentry => (h.watchful.minded entry hentry).frame _ _ _
  case keys_nodup => exact h.keys_nodup.sublist (List.filter_sublist.map _)
  case filed => exact fun b hb => h.filed b (List.mem_of_mem_filter hb)

omit [DecidableEq κ] in
/-- A registry stays at rest when keys are dropped. -/
theorem AtRest.under (h : AtRest c r) (p : κ × EntryId → Bool) :
    AtRest c { r with bound := r.bound.filter p } :=
  ⟨h.tidy.under p, h.settled⟩

/-- An entry is removed from under its key, and no other is. -/
theorem Tidy.remove (h : Tidy c r) (e : EntryId) :
    r.remove e = { r with bound := r.bound.filter fun b => decide (b.2 ≠ e) } := by
  cases he : r.entries[e]? with
  | none =>
    have hall : ∀ b ∈ r.bound, decide (b.2 ≠ e) = true := by
      intro b hb
      obtain ⟨entry, hentry, -⟩ := h.filed b hb
      refine decide_eq_true ?_
      rintro rfl
      rw [he] at hentry
      cases hentry
    rw [Registry.remove, he, List.filter_eq_self.mpr hall]
  | some entry =>
    rw [Registry.remove, he]
    refine congrArg (fun bound => { r with bound := bound }) (List.filter_congr ?_)
    rintro ⟨key, i⟩ hb
    obtain ⟨other, hother, hkey⟩ := h.filed _ hb
    refine decide_eq_decide.mpr (not_congr ?_)
    rw [Prod.mk.injEq]
    refine and_iff_right_of_imp ?_
    rintro rfl
    obtain rfl := Option.some.inj (he.symm.trans hother)
    exact hkey.symm

/-- To remove entries drops their keys, and nothing else. -/
theorem Tidy.foldl_remove (h : Tidy c r) (chosen : List EntryId) : chosen.foldl Registry.remove r =
    { r with bound := r.bound.filter fun b => decide (b.2 ∉ chosen) } := by
  induction chosen generalizing r with
  | nil => simp
  | cons e rest ih =>
    rw [List.foldl_cons, h.remove e, ih (h.under _)]
    simp only [List.filter_filter]
    refine congrArg (fun bound => { r with bound := bound }) (List.filter_congr ?_)
    intro b _
    simp [Bool.and_comm]

/-- What is under one key is one entry, so to remove the entry is to be rid of the key. -/
theorem Tidy.remove_key (h : Tidy c r) {key : κ} (hb : (key, e) ∈ r.bound) :
    r.remove e = { r with bound := r.bound.filter fun b => decide (b.1 ≠ key) } := by
  rw [h.remove]
  refine congrArg (fun bound => { r with bound := bound }) (List.filter_congr ?_)
  intro b hmem
  refine decide_eq_decide.mpr (not_congr ⟨?_, ?_⟩)
  · rintro rfl
    obtain ⟨entry, he, hkey⟩ := h.filed b hmem
    obtain ⟨entry', he', hkey'⟩ := h.filed _ hb
    obtain rfl := Option.some.inj (he.symm.trans he')
    exact hkey.symm.trans hkey'
  · intro hkey
    exact congrArg Prod.snd (List.inj_on_of_nodup_map h.keys_nodup hmem hb hkey)

/-! ## Registrations and completions -/

/-- A registry stays tidy when a session is enlisted under a key of its own. -/
theorem Tidy.enlisted (h : Tidy c r) (hc : c.Compliant) {key : κ} {n : SessionId}
    (hkey : key ∉ r.keys) (hemployed : ∀ w ∈ c.workers r.world.1 n, w < r.latches.length) :
    Tidy c (r.enlisted c.chronicled key n) := by
  have hworkers : ∀ m, c.workers (r.enlisted c.chronicled key n).world.1 m =
      c.workers r.world.1 m := hc.start n (r.entered c.chronicled key n).plain
  have hfinished : ∀ w, (r.enlisted c.chronicled key n).isFinished w = r.isFinished w := fun w =>
    (isFinished_congr rfl w).trans isFinished_observeAll
  refine {
    watchful := h.watchful.enlisted hc.chronicled.faithful key hemployed
    keys_nodup := ?keys_nodup
    filed := ?filed
    triggered := ?triggered
    concluded := ?concluded
    starts := ?starts
    cleanups := ?cleanups }
  case keys_nodup =>
    exact keys_nodup_enlisted h.keys_nodup hkey
  case filed =>
    intro b hb
    rcases List.mem_append.mp hb with hb | hb
    · obtain ⟨entry, he, hentry⟩ := h.filed b hb
      have hlt := (List.getElem?_eq_some_iff.mp he).1
      exact ⟨entry, (List.getElem?_append_left hlt).trans he, hentry⟩
    · obtain rfl := List.mem_singleton.mp hb
      exact ⟨_, List.getElem?_concat_length, rfl⟩
  case triggered =>
    intro entry hentry hstage w hw
    rw [hworkers] at hw
    rw [hfinished]
    rcases List.mem_append.mp hentry with hentry | hentry
    · exact h.triggered entry hentry hstage w hw
    · obtain rfl := List.mem_singleton.mp hentry
      exact absurd rfl hstage
  case concluded =>
    intro entry hentry body hstage
    rcases List.mem_append.mp hentry with hentry | hentry
    · exact h.concluded entry hentry body hstage
    · obtain rfl := List.mem_singleton.mp hentry
      cases hstage
  case starts =>
    simpa [Registry.enlisted, entered, Contract.chronicled] using h.starts
  case cleanups =>
    simpa [Registry.enlisted, entered, Contract.chronicled, Entry.ended, List.filterMap_cons]
      using h.cleanups

omit [DecidableEq κ] in
/-- A registry stays tidy when a worker is done. -/
theorem Tidy.finish (h : Tidy c r) (w : WorkerId) : Tidy c (r.finish w).2 := by
  refine {
    watchful := h.watchful.finish w
    keys_nodup := ?keys_nodup
    filed := ?filed
    triggered := ?triggered
    concluded := ?concluded
    starts := ?starts
    cleanups := ?cleanups }
  case keys_nodup =>
    simpa [keys] using h.keys_nodup
  case filed =>
    simpa using h.filed
  case triggered =>
    intro entry hentry hstage v hv
    rw [world_finish] at hv
    exact isFinished_finish_of_isFinished (h.triggered entry (by simpa using hentry) hstage v hv)
  case concluded =>
    simpa using h.concluded
  case starts =>
    simpa using h.starts
  case cleanups =>
    simpa using h.cleanups

end Registry

end MediaProxy
