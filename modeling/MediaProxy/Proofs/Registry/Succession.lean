import MediaProxy.Proofs.Registry.Traffic

/-!
# Newer sessions

While a stop waits for workers, the session that it stops can be taken from under its key and
another be registered there, by somebody else or by the cleanup of the first. A stop removes the
entries that it chose when it began, and those only, so the newer session stays under the key
however the stop goes on (`newer_session_stays`).

What the newer session comes to is then its own matter. If nobody else stops or forgets it, it is
not asked to stop and not cleaned up as long as all of its workers are at work; once one of them is
done it ends like any other, and a stop of the older session that is still waiting has nothing to do
with that (`newer_session_ends`).
-/

namespace MediaProxy.Registry

variable {κ σ : Type} {c : Contract κ σ}

/-! ## What is done for one entry -/

/-- A registry **beside** another: something may have been done for one entry, and every other entry
is as it was. Entries may have been added. -/
structure Beside (c : Contract κ σ) (e : EntryId) (r r' : Registry κ σ) : Prop where
  length : r.entries.length ≤ r'.entries.length
  entries : ∀ (i : EntryId) (entry : Entry κ), r.entries[i]? = some entry →
    ∃ stage, r'.entries[i]? = some { entry with stage := stage } ∧ (i ≠ e → stage = entry.stage)
  fresh : ∀ (i : EntryId) (entry : Entry κ), r.entries.length ≤ i → r'.entries[i]? = some entry →
    entry.stage = .armed
  workers : ∀ entry ∈ r.entries, c.workers r'.world entry.session = c.workers r.world entry.session
  finished : ∀ w, r.isFinished w = true → r'.isFinished w = true

variable {r r' r'' : Registry κ σ} {e b : EntryId} {entry : Entry κ}

theorem Beside.trans (h : Beside c e r r') (h' : Beside c e r' r'') (he : e < r.entries.length) :
    Beside c e r r'' := by
  refine ⟨Nat.le_trans h.length h'.length, ?_, ?_, ?_, fun w hw => h'.finished w (h.finished w hw)⟩
  · intro i entry hi
    obtain ⟨stage, hi', hsame⟩ := h.entries i entry hi
    obtain ⟨stage', hi'', hsame'⟩ := h'.entries i _ hi'
    exact ⟨stage', hi'', fun hne => (hsame' hne).trans (hsame hne)⟩
  · intro i entry hi hi''
    by_cases hlt : i < r'.entries.length
    · obtain ⟨stage, hentry, hsame⟩ := h'.entries i _ (List.getElem?_eq_getElem hlt)
      obtain rfl := Option.some.inj (hi''.symm.trans hentry)
      have hne : i ≠ e := Nat.ne_of_gt (Nat.lt_of_lt_of_le he hi)
      exact (hsame hne).trans (h.fresh i _ hi (List.getElem?_eq_getElem hlt))
    · exact h'.fresh i entry (Nat.le_of_not_lt hlt) hi''
  · intro entry hentry
    obtain ⟨i, hi⟩ := List.mem_iff_getElem?.mp hentry
    obtain ⟨stage, hi', -⟩ := h.entries i entry hi
    exact (h'.workers _ (List.mem_of_getElem? hi')).trans (h.workers entry hentry)

/-- A later registry is beside the one that it was, for every entry. -/
theorem Later.beside (h : Later c r r') (e : EntryId) : Beside c e r r' := by
  obtain ⟨added, hentries, harmed⟩ := h.entries
  refine ⟨by simp [hentries], ?_, ?_, h.workers, h.finished⟩
  · intro i entry hi
    refine ⟨entry.stage, ?_, fun _ => rfl⟩
    rw [hentries, List.getElem?_append_left (List.getElem?_eq_some_iff.mp hi).1, hi]
  · intro i entry hi hi'
    rw [hentries, List.getElem?_append_right hi] at hi'
    exact harmed entry (List.mem_of_getElem? hi')

/-- A stage of one entry is no matter of others. -/
theorem beside_setStage (c : Contract κ σ) (r : Registry κ σ) (e : EntryId) (stage : Stage) :
    Beside c e r (r.setStage e stage) := by
  refine ⟨Nat.le_of_eq length_setStage.symm, ?_, ?_, fun _ _ => rfl, fun _ h => h⟩
  · intro i entry hi
    rw [getElem?_setStage, hi, Option.map_some]
    by_cases hei : e = i
    · exact ⟨stage, by rw [if_pos hei], fun hne => absurd hei.symm hne⟩
    · exact ⟨entry.stage, by rw [if_neg hei], fun _ => rfl⟩
  · intro i entry hi hi'
    rw [getElem?_setStage, List.getElem?_eq_none hi] at hi'
    cases hi'

variable [DecidableEq κ]

/-- To trigger one entry is no matter of others. -/
theorem beside_trigger (hc : c.Faithful) (he : r.entries[e]? = some entry) :
    Beside c e r (trigger c e r) := by
  rw [trigger_eq he]
  exact (beside_setStage c r e .stopping).trans (((deeds_foldl_halt hc _).acts.later hc).beside e)
    (List.getElem?_eq_some_iff.mp he).1

/-- To conclude one entry is no matter of others. -/
theorem beside_conclude (hc : c.Faithful) (he : r.entries[e]? = some entry) :
    Beside c e r (conclude c e r) := by
  rw [conclude_eq he]
  exact (((hc.cleanup entry.session r).later hc).beside e).trans (beside_setStage ..)
    (List.getElem?_eq_some_iff.mp he).1

/-- What is due for one entry is no matter of others. -/
theorem beside_proceed (hc : c.Faithful) (he : r.entries[e]? = some entry) :
    Beside c e r (proceed c e r) := by
  unfold proceed
  split
  · exact beside_trigger hc he
  · exact beside_conclude hc he
  · exact (Later.of_eq rfl rfl fun _ _ => rfl).beside e

/-- A stop that reaches one entry is no matter of others. -/
theorem beside_reach (hc : c.Faithful) (he : r.entries[e]? = some entry) :
    Beside c e r (reach c e r).2 := by
  unfold reach
  split
  · exact beside_trigger hc he
  · exact (Later.of_eq rfl rfl fun _ _ => rfl).beside e

/-- A registry stays watchful when what is due is done. -/
theorem Watchful.proceed (h : Watchful c r) (hc : c.Faithful) (e : EntryId) :
    Watchful c (Registry.proceed c e r) := by
  unfold Registry.proceed
  split
  · exact h.trigger hc e
  · exact h.conclude hc e
  · exact h

/-- A registry stays watchful when a stop reaches an entry. -/
theorem Watchful.reach (h : Watchful c r) (hc : c.Faithful) (e : EntryId) :
    Watchful c (Registry.reach c e r).2 := by
  unfold Registry.reach
  split
  · exact h.trigger hc e
  · exact h

/-- No key is in use twice when what is due is done. -/
theorem keys_nodup_proceed (hc : c.Faithful) (hn : r.keys.Nodup) (e : EntryId) :
    (Registry.proceed c e r).keys.Nodup := by
  unfold Registry.proceed
  split
  · rwa [keys, bound_trigger]
  · cases he : r.entries[e]? with
    | none => rwa [conclude, he]
    | some entry =>
      rw [conclude_eq he]
      exact (hc.cleanup entry.session r).keys_nodup hn
  · exact hn

omit [DecidableEq κ] in
/-- A stop that reaches an entry leaves all keys where they are. -/
theorem bound_reach (c : Contract κ σ) (e : EntryId) (r : Registry κ σ) :
    (Registry.reach c e r).2.bound = r.bound := by
  unfold Registry.reach
  split
  · exact bound_trigger
  · rfl

/-! ## Removals -/

/-- To remove one entry leaves the others under their keys. -/
theorem mem_bound_remove {key : κ} (hb : (key, b) ∈ r.bound) (hne : b ≠ e) :
    (key, b) ∈ (r.remove e).bound := by
  unfold remove
  split
  · exact hb
  next entry _ =>
    refine List.mem_filter.mpr ⟨hb, ?_⟩
    simp [hne]

/-- Whoever removes some entries removes no other. -/
theorem mem_bound_foldl_remove {key : κ} {chosen : List EntryId} (hb : (key, b) ∈ r.bound)
    (hnot : b ∉ chosen) : (key, b) ∈ (chosen.foldl remove r).bound := by
  induction chosen generalizing r with
  | nil => exact hb
  | cons e rest ih =>
    rw [List.mem_cons, not_or] at hnot
    exact ih (mem_bound_remove hb hnot.1) hnot.2

/-- To remove an entry puts no key in use. -/
theorem keys_remove_sublist (r : Registry κ σ) (e : EntryId) :
    (r.remove e).keys.Sublist r.keys := by
  unfold remove
  split
  · exact .refl _
  · exact List.filter_sublist.map _

namespace Traffic

variable {t t' t'' : Traffic κ σ}

/-! ## Everything that happens -/

/-- One step of traffic, in which code outside may also register a session that declares a worker
more than once. -/
inductive Happens (c : Contract κ σ) (t : Traffic κ σ) : Traffic κ σ → Prop where
  | step {t' : Traffic κ σ} (step : Step c t t') : Happens c t t'
  | act {r : Registry κ σ} (act : Act c t.registry r) : Happens c t { t with registry := r }

/-- What is true of traffic at any time, whatever sessions declare. -/
structure Coherent (c : Contract κ σ) (t : Traffic κ σ) : Prop where
  watchful : Watchful c t.registry
  keys_nodup : t.registry.keys.Nodup
  ahead : ∀ sweep ∈ t.sweeps, ∀ e ∈ sweep.ahead, e ∈ sweep.chosen
  chosen_lt : ∀ sweep ∈ t.sweeps, ∀ e ∈ sweep.chosen, e < t.registry.entries.length
  ledger_lt : ∀ record ∈ t.ledger, record.1 < t.registry.entries.length

omit [DecidableEq κ] in
/-- Traffic is coherent where there is none. -/
theorem coherent_idle (c : Contract κ σ) (world : σ) : Coherent c (idle world) := by
  refine ⟨⟨?_, ?_, ?_⟩, ?_, ?_, ?_, ?_⟩ <;> simp [idle, Registry.empty, Filed, keys]

/-- What a step does for entries: nothing, or something for one that is due or that a stop has come
to. -/
theorem Happens.serves (h : Happens c t t') (hc : c.Faithful) (hcoherent : Coherent c t) :
    ((∀ e, Beside c e t.registry t'.registry) ∧ t'.ledger = t.ledger) ∨
    ∃ (e : EntryId) (entry : Entry κ) (calls : List Call),
      t.registry.entries[e]? = some entry ∧ Beside c e t.registry t'.registry ∧
      t'.ledger = t.ledger ++ calls.map (fun call => (e, call)) ∧
      (t.registry.isDue entry = true ∨ ∃ sweep ∈ t.sweeps, e ∈ sweep.ahead) := by
  have hsame : ∀ e, Beside c e t.registry t.registry := (Later.of_eq rfl rfl fun _ _ => rfl).beside
  cases h with
  | act act => exact .inl ⟨(act.later hc).beside, rfl⟩
  | step step =>
    cases step with
    | deed deed => exact .inl ⟨((Act.deed deed).later hc).beside, rfl⟩
    | @due e entry entry_eq isDue =>
      exact .inr ⟨e, entry, _, entry_eq, beside_proceed hc entry_eq, rfl, .inl isDue⟩
    | begin_one | begin_all | pass => exact .inl ⟨hsame, rfl⟩
    | @reach before after chosen ahead e sweep =>
      have hmem : ⟨chosen, e :: ahead, none⟩ ∈ t.sweeps := by simp [sweep]
      have hlt := hcoherent.chosen_lt _ hmem e (hcoherent.ahead _ hmem e List.mem_cons_self)
      have he := List.getElem?_eq_getElem hlt
      exact .inr ⟨e, _, _, he, beside_reach hc he, rfl, .inr ⟨_, hmem, List.mem_cons_self⟩⟩
    | @finish before after chosen sweep =>
      refine .inl ⟨Later.beside ?_, rfl⟩
      exact foldl_remove_induction (P := Later c t.registry)
        (fun r e hr => hr.trans (later_remove c r e)) chosen (.of_eq rfl rfl fun _ _ => rfl)

/-- Which stops are under way after a step: such as were, and perhaps one that has just begun. -/
theorem Happens.sweeps (h : Happens c t t') : ∀ sweep' ∈ t'.sweeps,
    (∃ sweep ∈ t.sweeps, sweep'.chosen = sweep.chosen ∧ ∀ e ∈ sweep'.ahead, e ∈ sweep.ahead) ∨
    (sweep'.ahead = sweep'.chosen ∧ ∀ e ∈ sweep'.chosen, ∃ key, (key, e) ∈ t.registry.bound) := by
  intro sweep' hs
  have hkeep : sweep' ∈ t.sweeps → (∃ sweep ∈ t.sweeps, sweep'.chosen = sweep.chosen ∧
      ∀ e ∈ sweep'.ahead, e ∈ sweep.ahead) := fun hmem => ⟨sweep', hmem, rfl, fun _ he => he⟩
  -- Only a beginning adds a sweep, and what it chooses is what is bound then. The others go on with
  -- one that there is.
  cases h with
  | act act => exact .inl (hkeep hs)
  | step step =>
    cases step with
    | deed | due => exact .inl (hkeep hs)
    | begin_one key bound =>
      rcases List.mem_append.mp hs with hs | hs
      · exact .inl (hkeep hs)
      · obtain rfl := List.mem_singleton.mp hs
        refine .inr ⟨rfl, ?_⟩
        simpa using ⟨key, mem_bound_of_boundTo? bound⟩
    | begin_all all =>
      rcases List.mem_append.mp hs with hs | hs
      · exact .inl (hkeep hs)
      · obtain rfl := List.mem_singleton.mp hs
        refine .inr ⟨rfl, ?_⟩
        intro e he
        obtain ⟨⟨key, _⟩, hb, rfl⟩ := List.mem_map.mp (all.mem_iff.mp he)
        exact ⟨key, hb⟩
    | @reach before after chosen ahead e sweep =>
      left
      simp only [List.mem_append, List.mem_cons] at hs
      rcases hs with hs | rfl | hs
      · exact hkeep (by simp [sweep, hs])
      · exact ⟨⟨chosen, e :: ahead, none⟩, by simp [sweep], rfl, fun _ => List.mem_cons_of_mem e⟩
      · exact hkeep (by simp [sweep, hs])
    | @pass before after chosen ahead stop body sweep _ =>
      left
      have hwas : sweep' ∈ before ∨ sweep' = ⟨chosen, ahead, none⟩ ∨ sweep' ∈ after := by
        cases hb : stop.breaksAt body with
        | true => exact (show sweep' ∈ before ∨ sweep' ∈ after by simpa [hb] using hs).imp_right .inr
        | false => simpa [hb] using hs
      rcases hwas with hs | rfl | hs
      · exact hkeep (by simp [sweep, hs])
      · exact ⟨⟨chosen, ahead, some stop⟩, by simp [sweep], rfl, fun _ he => he⟩
      · exact hkeep (by simp [sweep, hs])
    | @finish before after chosen sweep =>
      left
      rcases List.mem_append.mp hs with hs | hs
      · exact hkeep (by simp [sweep, hs])
      · exact hkeep (by simp [sweep, hs])

/-- A registry stays watchful, whatever happens. -/
theorem Happens.watchful (h : Happens c t t') (hc : c.Faithful) (hw : Watchful c t.registry) :
    Watchful c t'.registry := by
  cases h with
  | act act => exact hw.act hc act
  | step step =>
    cases step with
    | deed deed => exact hw.act hc (.deed deed)
    | due => exact hw.proceed hc _
    | begin_one | begin_all | pass => exact hw
    | reach => exact hw.reach hc _
    | finish => exact foldl_remove_induction (fun r e hr => hr.remove e) _ hw

/-- No key is in use twice, whatever happens. -/
theorem Happens.keys_nodup (h : Happens c t t') (hc : c.Faithful) (hn : t.registry.keys.Nodup) :
    t'.registry.keys.Nodup := by
  cases h with
  | act act => exact act.keys_nodup hn
  | step step =>
    cases step with
    | deed deed => exact (Act.deed deed).keys_nodup hn
    | due => exact keys_nodup_proceed hc hn _
    | begin_one | begin_all | pass => exact hn
    | reach => simpa only [keys, serve, bound_reach] using hn
    | finish =>
      exact foldl_remove_induction (P := fun r => r.keys.Nodup)
        (fun r e hr => hr.sublist (keys_remove_sublist r e)) _ hn

/-- Traffic stays coherent, whatever happens. -/
theorem Coherent.happens (hcoherent : Coherent c t) (hc : c.Faithful) (h : Happens c t t') :
    Coherent c t' := by
  have hlength : t.registry.entries.length ≤ t'.registry.entries.length := by
    rcases h.serves hc hcoherent with ⟨hbeside, -⟩ | ⟨e, _, _, _, hbeside, -⟩
    · exact (hbeside 0).length
    · exact hbeside.length
  refine ⟨h.watchful hc hcoherent.watchful, h.keys_nodup hc hcoherent.keys_nodup, ?_, ?_, ?_⟩
  · intro sweep' hs e he
    rcases h.sweeps sweep' hs with ⟨sweep, hwas, hchosen, hahead⟩ | ⟨hahead, -⟩
    · exact hchosen ▸ hcoherent.ahead sweep hwas e (hahead e he)
    · exact hahead ▸ he
  · intro sweep' hs e he
    refine Nat.lt_of_lt_of_le ?_ hlength
    rcases h.sweeps sweep' hs with ⟨sweep, hwas, hchosen, -⟩ | ⟨-, hbound⟩
    · exact hcoherent.chosen_lt sweep hwas e (hchosen ▸ he)
    · obtain ⟨key, hb⟩ := hbound e he
      exact hcoherent.watchful.bound_lt _ hb
  · intro record hrecord
    refine Nat.lt_of_lt_of_le ?_ hlength
    rcases h.serves hc hcoherent with ⟨-, hledger⟩ | ⟨e, entry, calls, he, -, hledger, -⟩
    · exact hcoherent.ledger_lt record (hledger ▸ hrecord)
    · rw [hledger] at hrecord
      rcases List.mem_append.mp hrecord with hrecord | hrecord
      · exact hcoherent.ledger_lt record hrecord
      · obtain ⟨call, -, rfl⟩ := List.mem_map.mp hrecord
        exact (List.getElem?_eq_some_iff.mp he).1

/-- Traffic is coherent at any time. -/
theorem coherent_of_run (hc : c.Faithful) {world : σ}
    (h : Relation.ReflTransGen (Happens c) (idle world) t) : Coherent c t := by
  induction h with
  | refl => exact coherent_idle c world
  | tail _ hs ih => exact ih.happens hc hs

/-! ## An entry that is left alone -/

/-- A stop that has reached every entry **returns**. -/
def Returns (t t' : Traffic κ σ) : Prop :=
  ∃ before chosen after, t.sweeps = before ++ ⟨chosen, [], none⟩ :: after ∧
    t' = { t with registry := chosen.foldl remove t.registry, sweeps := before ++ after }

/-- A step by which an entry is **left alone**: no stop begins that chooses it, and nothing but a
stop that returns may take it from under a key. -/
structure LeavesAlone (c : Contract κ σ) (b : EntryId) (t t' : Traffic κ σ) : Prop where
  happens : Happens c t t'
  unchosen : (∃ sweep ∈ t'.sweeps, b ∈ sweep.chosen) → ∃ sweep ∈ t.sweeps, b ∈ sweep.chosen
  kept : ¬ Returns t t' → ∀ key, (key, b) ∈ t.registry.bound → (key, b) ∈ t'.registry.bound

/-- No stop has to do with an entry: none under way has chosen it, and nothing was called for it
unless a worker of its own is done. -/
structure Spared (c : Contract κ σ) (b : EntryId) (t : Traffic κ σ) : Prop where
  unchosen : ∀ sweep ∈ t.sweeps, b ∉ sweep.chosen
  calls : ∀ entry, t.registry.entries[b]? = some entry →
    (entry.stage = .armed ∧ t.callsFor b = []) ∨
      ∃ w ∈ c.workers t.registry.world entry.session, t.registry.isFinished w = true

omit [DecidableEq κ] in
/-- An entry that there is not yet is spared. -/
theorem Coherent.spared (h : Coherent c t) (hb : t.registry.entries.length ≤ b) : Spared c b t := by
  refine ⟨fun sweep hs hmem => Nat.not_lt.mpr hb (h.chosen_lt sweep hs b hmem), ?_⟩
  intro entry he
  rw [List.getElem?_eq_none hb] at he
  cases he

/-- **A step leaves an entry spared** that it leaves alone. -/
theorem Spared.leavesAlone (h : Spared c b t) (hcoherent : Coherent c t) (hc : c.Faithful)
    (ha : LeavesAlone c b t t') : Spared c b t' := by
  refine ⟨fun sweep hs hmem => ?_, ?_⟩
  · obtain ⟨sweep', hs', hmem'⟩ := ha.unchosen ⟨sweep, hs, hmem⟩
    exact h.unchosen sweep' hs' hmem'
  -- What was done, it was done for another entry, or a worker of this one is done.
  have hother : ∀ (e : EntryId) (calls : List Call), Beside c e t.registry t'.registry → b ≠ e →
      t'.ledger = t.ledger ++ calls.map (fun call => (e, call)) →
      ∀ entry, t'.registry.entries[b]? = some entry → (entry.stage = .armed ∧ t'.callsFor b = []) ∨
        ∃ w ∈ c.workers t'.registry.world entry.session, t'.registry.isFinished w = true := by
    intro e calls hbeside hne hledger entry' he'
    have hcalls : t'.callsFor b = t.callsFor b := by
      rw [callsFor, hledger, callsFor_append, if_neg hne.symm, List.append_nil]
    rw [hcalls]
    by_cases hlt : b < t.registry.entries.length
    · obtain ⟨stage, hentry, hsame⟩ := hbeside.entries b _ (List.getElem?_eq_getElem hlt)
      obtain rfl := Option.some.inj (he'.symm.trans hentry)
      rw [hsame hne, hbeside.workers _ (List.getElem_mem hlt)]
      exact (h.calls _ (List.getElem?_eq_getElem hlt)).imp_right
        (Exists.imp fun w => And.imp_right (hbeside.finished w))
    · have hle := Nat.le_of_not_lt hlt
      exact .inl ⟨hbeside.fresh b entry' hle he',
        callsFor_eq_nil fun record hr heq => hlt (heq ▸ hcoherent.ledger_lt record hr)⟩
  rcases ha.happens.serves hc hcoherent with
    ⟨hbeside, hledger⟩ | ⟨e, entry, calls, he, hbeside, hledger, hcause⟩
  · exact hother (b + 1) [] (hbeside _) (Nat.ne_of_lt (Nat.lt_succ_self b)) (by simpa using hledger)
  · by_cases hbe : b = e
    · subst hbe
      intro entry' he'
      have hmem := List.mem_of_getElem? he
      obtain ⟨stage, hentry, -⟩ := hbeside.entries b entry he
      obtain rfl := Option.some.inj (he'.symm.trans hentry)
      rw [hbeside.workers entry hmem]
      have hdone : ∃ w ∈ c.workers t.registry.world entry.session,
          t.registry.isFinished w = true := by
        rcases h.calls entry he with ⟨harmed, -⟩ | hdone
        · rcases hcause with hdue | ⟨sweep, hs, hahead⟩
          · exact (hcoherent.watchful.isDue_armed_iff hmem harmed).mp hdue
          · exact absurd (hcoherent.ahead sweep hs b hahead) (h.unchosen sweep hs)
        · exact hdone
      exact .inr (hdone.imp fun w => And.imp_right (hbeside.finished w))
    · exact hother e calls hbeside hbe hledger

/-- It stays under its key: whoever returns, returns from stopping others. -/
theorem Spared.mem_bound (h : Spared c b t) (ha : LeavesAlone c b t t') {key : κ}
    (hb : (key, b) ∈ t.registry.bound) : (key, b) ∈ t'.registry.bound := by
  by_cases hreturns : Returns t t'
  · obtain ⟨before, chosen, after, hsweeps, rfl⟩ := hreturns
    exact mem_bound_foldl_remove hb (h.unchosen ⟨chosen, [], none⟩ (by simp [hsweeps]))
  · exact ha.kept hreturns key hb

/-- As long as an entry is left alone, it is spared and stays under its key. -/
theorem Spared.run (h : Spared c b t) (hcoherent : Coherent c t) (hc : c.Faithful)
    (hrun : Relation.ReflTransGen (LeavesAlone c b) t t') :
    Coherent c t' ∧ Spared c b t' ∧
      ∀ key, (key, b) ∈ t.registry.bound → (key, b) ∈ t'.registry.bound := by
  induction hrun with
  | refl => exact ⟨hcoherent, h, fun _ hb => hb⟩
  | tail _ ha ih =>
    obtain ⟨hcoherent', h', hkept⟩ := ih
    exact ⟨hcoherent'.happens hc ha.happens, h'.leavesAlone hcoherent' hc ha,
      fun key hb => h'.mem_bound ha (hkept key hb)⟩

/-- Nobody can do anything to an entry that there is not yet. -/
theorem Coherent.leavesAlone (hcoherent : Coherent c t) (h : Happens c t t')
    (hb : t.registry.entries.length ≤ b) : LeavesAlone c b t t' := by
  have hnone : ∀ key, (key, b) ∉ t.registry.bound := fun key hmem =>
    Nat.not_lt.mpr hb (hcoherent.watchful.bound_lt _ hmem)
  refine ⟨h, ?_, fun _ key hmem => absurd hmem (hnone key)⟩
  rintro ⟨sweep', hs, hmem⟩
  rcases h.sweeps sweep' hs with ⟨sweep, hwas, hchosen, -⟩ | ⟨-, hbound⟩
  · exact ⟨sweep, hwas, hchosen ▸ hmem⟩
  · obtain ⟨key, hkey⟩ := hbound b hmem
    exact absurd hkey (hnone key)

/-! ## A newer session -/

/-- A **stop** of the entry under a key begins. -/
inductive StopBegins (c : Contract κ σ) (key : κ) (a : EntryId) (t : Traffic κ σ) :
    Traffic κ σ → Prop where
  /-- Somebody stops the session under the key. -/
  | one (bound : t.registry.boundTo? key = some a) :
      StopBegins c key a t { t with sweeps := t.sweeps ++ [⟨[a], [a], none⟩] }
  /-- Somebody stops all sessions. -/
  | all (bound : t.registry.boundTo? key = some a) {chosen : List EntryId}
      (all : chosen.Perm (t.registry.bound.map Prod.snd)) :
      StopBegins c key a t { t with sweeps := t.sweeps ++ [⟨chosen, chosen, none⟩] }
  /-- The session ends by itself, since a worker of its own is done. -/
  | byItself (bound : t.registry.boundTo? key = some a) {entry : Entry κ}
      (entry_eq : t.registry.entries[a]? = some entry) (armed : entry.stage = .armed)
      (isDue : t.registry.isDue entry = true) :
      StopBegins c key a t (t.serve c a fun c r => proceed c a r)

/-- That a stop begins is something that happens. -/
theorem StopBegins.happens {key : κ} {a : EntryId} (h : StopBegins c key a t t') :
    Happens c t t' := by
  cases h with
  | one bound => exact .step (.begin_one key bound)
  | all _ all => exact .step (.begin_all all)
  | byItself _ entry_eq _ isDue => exact .step (.due entry_eq isDue)

/-- **A stop never removes a newer session.** A stop of the session under a key begins, and after
that another session is registered under the key. As long as nobody stops or forgets the newer one,
it stays the entry under the key, at every moment and so when the stop returns; it has not been
asked to stop and not been cleaned up unless one of its own workers is done; and to forget the older
session there, or any but the newer, comes to nothing. -/
theorem newer_session_stays (hc : c.Faithful) {world : σ} {t₀ t₁ t₂ t₃ : Traffic κ σ} {key : κ}
    {a : EntryId} {newer : Entry κ}
    (hrun : Relation.ReflTransGen (Happens c) (idle world) t₀)
    (hbegins : StopBegins c key a t₀ t₁) (hafter : t₀.registry.entries.length ≤ b)
    (hmeanwhile : Relation.ReflTransGen (LeavesAlone c b) t₁ t₂)
    (hregistered : t₂.registry.boundTo? key = some b)
    (hrest : Relation.ReflTransGen (LeavesAlone c b) t₂ t₃)
    (hnewer : t₃.registry.entries[b]? = some newer) :
    t₃.registry.boundTo? key = some b ∧
    (t₃.callsFor b = [] ∨
      ∃ w ∈ c.workers t₃.registry.world newer.session, t₃.registry.isFinished w = true) ∧
    ∀ older ≠ newer.session, t₃.registry.forget key older = (false, t₃.registry) := by
  -- The invariant is of the entry with number `b`, and holds of it before it has been registered.
  have hcoherent₀ := coherent_of_run hc hrun
  have halone := hcoherent₀.leavesAlone hbegins.happens hafter
  obtain ⟨hcoherent₂, hspared₂, -⟩ := (hcoherent₀.spared hafter).run hcoherent₀ hc
    (.head halone hmeanwhile)
  obtain ⟨hcoherent₃, hspared₃, hkept⟩ := hspared₂.run hcoherent₂ hc hrest
  have hbound : t₃.registry.boundTo? key = some b :=
    (boundTo?_eq_some_iff hcoherent₃.keys_nodup).mpr (hkept key (mem_bound_of_boundTo? hregistered))
  refine ⟨hbound, (hspared₃.calls newer hnewer).imp_left And.right, ?_⟩
  intro older hne
  have hlookup : t₃.registry.lookup key = some newer.session := by
    simp [lookup, entry?, hbound, hnewer]
  rw [forget, if_neg (by simpa [hlookup] using hne.symm)]

/-! ### A stop that waits -/

/-- Two rehearsed sessions for one key. The worker of the first goes on when it is asked to stop. -/
def successors : Stagehands :=
  ⟨[⟨['a'], [0], .returns none, false, 0, 0, none⟩, ⟨['a'], [1], .returns none, false, 0, 0, none⟩],
    [true, false], [0, 0]⟩

/-- The first is registered. -/
def firstRegistered : Traffic Text Stagehands :=
  let hired := ((Registry.empty successors : Registry Text Stagehands).hire .fresh).2.hire .fresh
  ⟨hired.2.enlisted Stagehands.contract ['a'] 0, [], [], []⟩

/-- A stop of the first begins. -/
def stopBegun : Traffic Text Stagehands := { firstRegistered with sweeps := [⟨[0], [0], none⟩] }

/-- The stop waits for the stubborn worker. -/
def stopWaiting : Traffic Text Stagehands :=
  { stopBegun.serve Stagehands.contract 0 fun c r => (Registry.reach c 0 r).2 with
    sweeps := [⟨[0], [], some ⟨0, true⟩⟩]
    reached := [0] }

/-- The first is forgotten. -/
def firstForgotten : Traffic Text Stagehands :=
  { stopWaiting with registry := (stopWaiting.registry.forget ['a'] 0).2 }

/-- The second is registered. -/
def secondRegistered : Traffic Text Stagehands :=
  { firstForgotten with registry := firstForgotten.registry.enlisted Stagehands.contract ['a'] 1 }

/-- The worker of the second is done, and the second ends by itself. -/
def secondEnded : Traffic Text Stagehands :=
  let done := { secondRegistered with registry := (secondRegistered.registry.finish 1).2 }
  (done.serve Stagehands.contract 1 fun c r => proceed c 1 r).serve Stagehands.contract 1
    fun c r => proceed c 1 r

/-- Somebody forgets the second as well. -/
def secondForgotten : Traffic Text Stagehands :=
  { secondRegistered with registry := (secondRegistered.registry.forget ['a'] 1).2 }

/-- A stop of the second begins as well. -/
def secondChosen : Traffic Text Stagehands :=
  { secondRegistered with sweeps := [⟨[0], [], some ⟨0, true⟩⟩, ⟨[1], [1], none⟩] }

/-- The other stop reaches the second. -/
def secondStopped : Traffic Text Stagehands :=
  { secondChosen.serve Stagehands.contract 1 fun c r => (Registry.reach c 1 r).2 with
    sweeps := [⟨[0], [], some ⟨0, true⟩⟩, ⟨[1], [], some ⟨1, true⟩⟩]
    reached := [0, 1] }

/-- The stubborn worker is done at last, and the first is cleaned up. -/
def firstEnded (t : Traffic Text Stagehands) : Traffic Text Stagehands :=
  { t with registry := (t.registry.finish 0).2 }.serve Stagehands.contract 0
    fun c r => proceed c 0 r

/-- The stop has nothing more to wait for. -/
def stopPassed (t : Traffic Text Stagehands) : Traffic Text Stagehands :=
  { firstEnded t with sweeps := ⟨[0], [], none⟩ :: t.sweeps.tail }

/-- The stop returns. -/
def stopReturned (t : Traffic Text Stagehands) : Traffic Text Stagehands :=
  { stopPassed t with
    registry := [0].foldl remove (stopPassed t).registry
    sweeps := t.sweeps.tail }

/-- A step leaves an entry alone if no stop begins that chooses it and it stays under its key. -/
theorem leavesAlone_of_check (h : Happens c t t')
    (hs : ∀ sweep' ∈ t'.sweeps, b ∈ sweep'.chosen → ∃ sweep ∈ t.sweeps, b ∈ sweep.chosen)
    (hk : ∀ x ∈ t.registry.bound, x.2 = b → x ∈ t'.registry.bound) : LeavesAlone c b t t' :=
  ⟨h, fun ⟨sweep', hmem, hb⟩ => hs sweep' hmem hb, fun _ key hb => hk (key, b) hb rfl⟩

theorem run_firstRegistered :
    Relation.ReflTransGen (Happens Stagehands.contract) (idle successors) firstRegistered := by
  refine .head (.act (.deed (.hire .fresh rfl))) (.head (.act (.deed (.hire .fresh rfl))) ?_)
  exact .single (.act (.register ['a'] 0 (by decide) rfl))

theorem run_secondRegistered :
    Relation.ReflTransGen (LeavesAlone Stagehands.contract 1) stopBegun secondRegistered := by
  have hreach : Happens Stagehands.contract stopBegun stopWaiting :=
    .step (.reach (show stopBegun.sweeps = [] ++ ⟨[0], [0], none⟩ :: [] from rfl))
  refine .head (leavesAlone_of_check hreach (by decide) (by decide)) ?_
  refine .head (b := firstForgotten) (leavesAlone_of_check (.act (.deed (.forget ['a'] 0)))
    (by decide) (by decide)) ?_
  exact .single (leavesAlone_of_check (.act (.register ['a'] 1 (by decide) rfl)) (by decide)
    (by decide))

theorem run_secondEnded :
    Relation.ReflTransGen (LeavesAlone Stagehands.contract 1) secondRegistered secondEnded := by
  refine .head (leavesAlone_of_check (.act (.deed (.finish 1))) (by decide) (by decide)) ?_
  refine .head (leavesAlone_of_check (.step (.due (e := 1) rfl rfl)) (by decide) (by decide)) ?_
  exact .single (leavesAlone_of_check (.step (.due (e := 1) rfl rfl)) (by decide) (by decide))

theorem run_secondForgotten :
    Relation.ReflTransGen (Happens Stagehands.contract) secondRegistered secondForgotten :=
  .single (.act (.deed (.forget ['a'] 1)))

theorem run_secondStopped :
    Relation.ReflTransGen (Happens Stagehands.contract) secondRegistered secondStopped := by
  have hbegin : Happens Stagehands.contract secondRegistered secondChosen :=
    .step (.begin_one ['a'] rfl)
  have hreach : Happens Stagehands.contract secondChosen secondStopped :=
    .step (.reach (show secondChosen.sweeps =
      [⟨[0], [], some ⟨0, true⟩⟩] ++ ⟨[1], [1], none⟩ :: [] from rfl))
  exact .head hbegin (.single hreach)

/-- Whatever has become of the second, the stop goes on to its end. -/
theorem run_stopReturned {t : Traffic Text Stagehands}
    (h : t ∈ [secondRegistered, secondEnded, secondForgotten, secondStopped]) :
    Relation.ReflTransGen (LeavesAlone Stagehands.contract 1) t (stopReturned t) := by
  have hcases : t = secondRegistered ∨ t = secondEnded ∨ t = secondForgotten ∨
      t = secondStopped := by simpa using h
  have hended : Relation.ReflTransGen (LeavesAlone Stagehands.contract 1) t (firstEnded t) := by
    rcases hcases with rfl | rfl | rfl | rfl
    all_goals
      refine .head (leavesAlone_of_check (.act (.deed (.finish 0))) (by decide) (by decide)) ?_
      exact .single (leavesAlone_of_check (.step (.due (e := 0) rfl rfl)) (by decide) (by decide))
  have hwaiting : (firstEnded t).sweeps = [] ++ ⟨[0], [], some ⟨0, true⟩⟩ :: t.sweeps.tail := by
    rcases hcases with rfl | rfl | rfl | rfl <;> rfl
  have hover : (firstEnded t).registry.stage? 0 = some (.concluded (.returns none)) := by
    rcases hcases with rfl | rfl | rfl | rfl <;> rfl
  have hpass : Happens Stagehands.contract (firstEnded t) (stopPassed t) :=
    .step (.pass hwaiting hover)
  have hready : (stopPassed t).sweeps = [] ++ ⟨[0], [], none⟩ :: t.sweeps.tail := rfl
  have hreturn : Happens Stagehands.contract (stopPassed t) (stopReturned t) :=
    .step (.finish hready)
  refine (hended.tail (leavesAlone_of_check hpass ?_ fun _ hx _ => hx)).tail
    (leavesAlone_of_check hreturn ?_ ?_)
  all_goals rcases hcases with rfl | rfl | rfl | rfl <;> decide

/-- The stop waits for the first while the second is registered, and returns. -/
theorem newer_session_stays_registered :
    (stopReturned secondRegistered).registry.boundTo? ['a'] = some 1 ∧
    (stopReturned secondRegistered).callsFor 1 = [] ∧
    (stopReturned secondRegistered).registry.forget ['a'] 0 =
      (false, (stopReturned secondRegistered).registry) := by
  have hbegins : StopBegins Stagehands.contract ['a'] 0 firstRegistered stopBegun := .one rfl
  obtain ⟨hbound, hcalls, hforget⟩ := newer_session_stays Stagehands.steady_contract.faithful
    run_firstRegistered hbegins (by decide) run_secondRegistered rfl
    (run_stopReturned (by simp))
    (b := 1) rfl
  refine ⟨hbound, hcalls.resolve_right ?_, hforget 0 (by decide)⟩
  decide

/-- What may come of the second while the stop waits. If its worker is done too, then nobody stops
or forgets it, and yet it has been asked to stop and cleaned up when the stop returns. If somebody
else forgets it, it is not under the key; if somebody else stops it, it has been asked to stop. -/
theorem newer_session_ends :
    ∃ t₁ t₂ : Traffic Text Stagehands,
      Relation.ReflTransGen (Happens Stagehands.contract) (idle successors) firstRegistered ∧
      StopBegins Stagehands.contract ['a'] 0 firstRegistered t₁ ∧
      firstRegistered.registry.entries.length = 1 ∧
      Relation.ReflTransGen (LeavesAlone Stagehands.contract 1) t₁ t₂ ∧
      t₂.registry.boundTo? ['a'] = some 1 ∧ t₂.sweeps = [⟨[0], [], some ⟨0, true⟩⟩] ∧
      (∃ t₃, Relation.ReflTransGen (LeavesAlone Stagehands.contract 1) t₂ t₃ ∧ t₃.sweeps = [] ∧
        t₃.registry.boundTo? ['a'] = some 1 ∧ t₃.callsFor 1 = [.halt 1, .cleanup 1]) ∧
      (∃ t₃, Relation.ReflTransGen (Happens Stagehands.contract) t₂ t₃ ∧ t₃.sweeps = [] ∧
        t₃.registry.boundTo? ['a'] = none) ∧
      ∃ t₃, Relation.ReflTransGen (Happens Stagehands.contract) t₂ t₃ ∧
        t₃.sweeps = [⟨[1], [], some ⟨1, true⟩⟩] ∧ t₃.callsFor 1 = [.halt 1] := by
  have hreturned : ∀ t ∈ [secondRegistered, secondEnded, secondForgotten, secondStopped],
      Relation.ReflTransGen (Happens Stagehands.contract) t (stopReturned t) := fun t ht =>
    Relation.ReflTransGen.mono (fun _ _ => LeavesAlone.happens) _ _ (run_stopReturned ht)
  refine ⟨stopBegun, secondRegistered, run_firstRegistered, .one rfl, rfl, run_secondRegistered,
    rfl, rfl, ?itself, ?forgotten, ?stopped⟩
  case itself =>
    refine ⟨_, run_secondEnded.trans (run_stopReturned (by simp)), rfl, rfl, ?_⟩
    decide
  case forgotten => exact ⟨_, run_secondForgotten.trans (hreturned _ (by simp)), rfl, rfl⟩
  case stopped =>
    refine ⟨_, run_secondStopped.trans (hreturned _ (by simp)), rfl, ?_⟩
    decide

end Traffic

end MediaProxy.Registry
