import MediaProxy.Proofs.Registry.Watching

/-!
# What a registration changes

A session's workers are observed one after another with one new tracker. Each observation adds the
worker to those that the tracker tallies and gives out a signal that speaks for it; what is said
about other trackers and earlier signals stays true (`minds_observeAll`). A new tracker tallies
nobody yet, because no registration can be one of a tracker that there was not (`Filed`).
-/

namespace MediaProxy.Registry

variable {κ σ : Type} {r : Registry κ σ} {t t' : TrackerId} {s : SignalId} {w w' : WorkerId}
  {ss : List SignalId} {ws : List WorkerId}

/-! ## One observation -/

/-- The observation of a worker that is done: the count goes up and down again. -/
theorem observe_of_done {latch : Latch} (hl : r.latches[w]? = some latch) (hd : latch.isDone = true) :
    r.observe w t = ([r.observers.signals.length],
      { r with observers := (((r.observers.add t).done t).newSignal .raised).2 }) := by
  have hset : r.latches.set w latch = r.latches := by
    obtain ⟨hlt, rfl⟩ := List.getElem?_eq_some_iff.mp hl
    exact List.set_getElem_self hlt
  simp [observe, hl, Latch.observe, hd, hset, Observers.newSignal]

/-- The observation of a worker that is at work. -/
theorem observe_of_busy {latch : Latch} (hl : r.latches[w]? = some latch)
    (hd : latch.isDone = false) :
    r.observe w t = ([r.observers.signals.length], { r with
      latches := r.latches.set w
        { latch with registrations := latch.registrations ++ [⟨t, some r.observers.signals.length⟩] }
      observers := ((r.observers.add t).newSignal .silent).2 }) := by
  simp [observe, hl, Latch.observe, hd, Observers.newSignal]

theorem entries_observe : (r.observe w t).2.entries = r.entries := by
  cases hl : r.latches[w]? <;> simp [observe, hl]

theorem bound_observe : (r.observe w t).2.bound = r.bound := by
  cases hl : r.latches[w]? <;> simp [observe, hl]

theorem world_observe : (r.observe w t).2.world = r.world := by
  cases hl : r.latches[w]? <;> simp [observe, hl]

/-- A worker that there is gives the next signal. -/
theorem signals_observe (h : w < r.latches.length) :
    (r.observe w t).1 = [r.observers.signals.length] := by
  simp [observe, List.getElem?_eq_getElem h, Latch.observe]
  split <;> simp [Observers.newSignal]

@[simp] theorem length_latches_observe : (r.observe w t).2.latches.length = r.latches.length := by
  cases hl : r.latches[w]? <;> simp [observe, hl]

@[simp] theorem length_pending_observe :
    (r.observe w t).2.observers.pending.length = r.observers.pending.length := by
  cases hl : r.latches[w]? with
  | none => simp [observe, hl]
  | some latch =>
    cases hd : latch.isDone with
    | true => simp [observe_of_done hl hd]
    | false => simp [observe_of_busy hl hd]

/-- A worker that there is gives one signal. -/
theorem length_signals_observe (h : w < r.latches.length) :
    (r.observe w t).2.observers.signals.length = r.observers.signals.length + 1 := by
  have hl : r.latches[w]? = some r.latches[w] := List.getElem?_eq_getElem h
  cases hd : r.latches[w].isDone with
  | true => simp [observe_of_done hl hd]
  | false => simp [observe_of_busy hl hd]

@[simp] theorem isFinished_observe : (r.observe w t).2.isFinished w' = r.isFinished w' := by
  cases hl : r.latches[w]? with
  | none => simp [observe, hl]
  | some latch =>
    cases hd : latch.isDone with
    | true => simp [observe_of_done hl hd, isFinished]
    | false =>
      rw [observe_of_busy hl hd]
      by_cases h : w = w'
      · subst h
        rw [isFinished_of_latch hl]
        simp [isFinished, (List.getElem?_eq_some_iff.mp hl).1]
      · simp [isFinished, h]

/-- To observe a worker is no matter of other trackers. -/
theorem pendingOf_observe_of_ne (h : t' ≠ t) :
    (r.observe w t).2.observers.pendingOf t' = r.observers.pendingOf t' := by
  cases hl : r.latches[w]? with
  | none => simp [observe, hl]
  | some latch =>
    cases hd : latch.isDone with
    | true => simp [observe_of_done hl hd, h, Observers.pendingOf_add_of_ne]
    | false => simp [observe_of_busy hl hd, h, Observers.pendingOf_add_of_ne]

/-- A tracker counts the worker that it observes, unless that is done. -/
theorem pendingOf_observe_self (ht : t < r.observers.pending.length) (h : w < r.latches.length) :
    (r.observe w t).2.observers.pendingOf t =
      r.observers.pendingOf t + if r.isFinished w then 0 else 1 := by
  have hl : r.latches[w]? = some r.latches[w] := List.getElem?_eq_getElem h
  rw [isFinished_of_latch hl]
  cases hd : r.latches[w].isDone with
  | true => simp [observe_of_done hl hd, Observers.pendingOf_add_self _ _ ht]
  | false => simp [observe_of_busy hl hd, Observers.pendingOf_add_self _ _ ht]

/-- To observe a worker leaves the signals of others as they are. -/
theorem signal_observe_of_lt (h : s < r.observers.signals.length) :
    (r.observe w t).2.observers.signal s = r.observers.signal s := by
  cases hl : r.latches[w]? with
  | none => simp [observe, hl]
  | some latch =>
    cases hd : latch.isDone with
    | true =>
      rw [observe_of_done hl hd]
      exact Observers.signal_newSignal_of_lt _ _ _ h
    | false =>
      rw [observe_of_busy hl hd]
      exact Observers.signal_newSignal_of_lt _ _ _ h

/-- The new signal is ready at once if the worker is done. -/
theorem isReady_observe (h : w < r.latches.length) :
    ((r.observe w t).2.observers.signal r.observers.signals.length).isReady = r.isFinished w := by
  have hl : r.latches[w]? = some r.latches[w] := List.getElem?_eq_getElem h
  rw [isFinished_of_latch hl]
  cases hd : r.latches[w].isDone with
  | true =>
    rw [observe_of_done hl hd]
    exact congrArg Signal.isReady (Observers.signal_newSignal_self ..)
  | false =>
    rw [observe_of_busy hl hd]
    exact congrArg Signal.isReady (Observers.signal_newSignal_self ..)

/-- A latch after an observation is as it was, or it is the observed one with one registration more.
-/
theorem latch_of_observe {latch : Latch} (hl : (r.observe w t).2.latches[w']? = some latch) :
    (r.latches[w']? = some latch ∧ (w' = w → latch.isDone = true)) ∨
    (w' = w ∧ ∃ old, r.latches[w]? = some old ∧ old.isDone = false ∧
      latch = ⟨false, old.registrations ++ [⟨t, some r.observers.signals.length⟩]⟩) := by
  cases hw : r.latches[w]? with
  | none =>
    rw [observe, hw] at hl
    refine .inl ⟨hl, ?_⟩
    rintro rfl
    simp [hw] at hl
  | some old =>
    cases ho : old.isDone with
    | true =>
      rw [observe_of_done hw ho] at hl
      refine .inl ⟨hl, ?_⟩
      rintro rfl
      obtain rfl := Option.some.inj (hw.symm.trans hl)
      exact ho
    | false =>
      rw [observe_of_busy hw ho] at hl
      by_cases h : w = w'
      · subst h
        refine .inr ⟨rfl, old, rfl, ho, ?_⟩
        simpa [(List.getElem?_eq_some_iff.mp hw).1, ho, eq_comm] using hl
      · exact .inl ⟨by simpa [h] using hl, fun e => absurd e.symm h⟩

/-! ## What it keeps -/

/-- Registrations stay filed when a worker is observed. -/
theorem Filed.observe (h : Filed r) (ht : t < r.observers.pending.length)
    (hw : w < r.latches.length) : Filed (r.observe w t).2 := by
  intro v latch hl g hg
  rw [length_pending_observe, length_signals_observe hw]
  rcases latch_of_observe hl with ⟨hl, -⟩ | ⟨rfl, old, hold, -, rfl⟩
  · exact ⟨(h hl g hg).1, fun s hs => Nat.lt_succ_of_lt ((h hl g hg).2 s hs)⟩
  · rcases List.mem_append.mp hg with hg | hg
    · exact ⟨(h hold g hg).1, fun s hs => Nat.lt_succ_of_lt ((h hold g hg).2 s hs)⟩
    · obtain rfl := List.mem_singleton.mp hg
      exact ⟨ht, by simp⟩

/-- An observation with another tracker leaves a tally as it is. -/
theorem Tallies.observe_of_ne (h : Tallies r t' ws) (hne : t' ≠ t) (w : WorkerId) :
    Tallies (r.observe w t).2 t' ws := by
  refine ⟨by simpa using h.tracker_lt, by simpa using h.employed, ?_, ?_⟩
  · simpa only [isFinished_observe, pendingOf_observe_of_ne hne] using h.pending
  · intro v latch hl hd
    rcases latch_of_observe hl with ⟨hl, -⟩ | ⟨rfl, old, hold, ho, rfl⟩
    · exact h.registered hl hd
    · simpa [List.countP_append, hne.symm] using h.registered hold ho

/-- An observation with the tracker itself lists the worker once more. -/
theorem Tallies.observe_self (h : Tallies r t ws) (hlt : w < r.latches.length) :
    Tallies (r.observe w t).2 t (ws ++ [w]) := by
  refine ⟨by simpa using h.tracker_lt, ?_, ?_, ?_⟩
  · simpa [or_imp, forall_and] using ⟨h.employed, hlt⟩
  · rw [pendingOf_observe_self h.tracker_lt hlt, h.pending]
    cases hd : r.isFinished w <;> simp [List.countP_append, hd]
  · intro v latch hl hd
    rcases latch_of_observe hl with ⟨hl, hdone⟩ | ⟨rfl, old, hold, ho, rfl⟩
    · have hv : v ≠ w := fun e => by simp [hdone e] at hd
      simpa [List.count_append, List.count_singleton, Ne.symm hv] using h.registered hl hd
    · simpa [List.countP_append, List.count_append] using h.registered hold ho

/-- An observation leaves an earlier signal speaking for its worker. -/
theorem SpeaksFor.observe (h : SpeaksFor r s w') (t : TrackerId) (hw : w < r.latches.length) :
    SpeaksFor (r.observe w t).2 s w' := by
  refine ⟨by simpa using h.employed, ?_, ?_, ?_⟩
  · rw [length_signals_observe hw]
    exact Nat.lt_succ_of_lt h.signal_lt
  · rw [signal_observe_of_lt h.signal_lt, isFinished_observe, h.ready]
  · intro v latch hl hd
    rcases latch_of_observe hl with ⟨hl, -⟩ | ⟨rfl, old, hold, ho, rfl⟩
    · exact h.registered hl hd
    · have hne : r.observers.signals.length ≠ s := Nat.ne_of_gt h.signal_lt
      simpa [or_and_right, exists_or, hne] using h.registered hold ho

/-- The signal of an observation speaks for the worker. -/
theorem speaksFor_observe (h : Filed r) (hlt : w < r.latches.length) :
    SpeaksFor (r.observe w t).2 r.observers.signals.length w := by
  have hnew : ∀ {v : WorkerId} {latch : Latch}, r.latches[v]? = some latch →
      ¬ ∃ g ∈ latch.registrations, g.signal = some r.observers.signals.length :=
    fun hl ⟨g, hg, hs⟩ => Nat.lt_irrefl _ ((h hl g hg).2 _ hs)
  refine ⟨by simpa using hlt, ?_, ?_, ?_⟩
  · rw [length_signals_observe hlt]
    exact Nat.lt_succ_self _
  · rw [isReady_observe hlt, isFinished_observe]
  · intro v latch hl hd
    rcases latch_of_observe hl with ⟨hl, hdone⟩ | ⟨rfl, old, hold, ho, rfl⟩
    · exact iff_of_false (hnew hl) fun e => by simp [hdone e] at hd
    · simp

/-! ## All workers of a session -/

theorem observeAll_cons : r.observeAll t (w :: ws) =
    ((r.observe w t).1 ++ ((r.observe w t).2.observeAll t ws).1,
      ((r.observe w t).2.observeAll t ws).2) := rfl

theorem entries_observeAll : (r.observeAll t ws).2.entries = r.entries := by
  induction ws generalizing r with
  | nil => rfl
  | cons w ws ih => exact ih.trans entries_observe

theorem bound_observeAll : (r.observeAll t ws).2.bound = r.bound := by
  induction ws generalizing r with
  | nil => rfl
  | cons w ws ih => exact ih.trans bound_observe

theorem world_observeAll : (r.observeAll t ws).2.world = r.world := by
  induction ws generalizing r with
  | nil => rfl
  | cons w ws ih => exact ih.trans world_observe

theorem isFinished_observeAll : (r.observeAll t ws).2.isFinished w' = r.isFinished w' := by
  induction ws generalizing r with
  | nil => rfl
  | cons w ws ih => exact ih.trans isFinished_observe

theorem length_latches_observeAll : (r.observeAll t ws).2.latches.length = r.latches.length := by
  induction ws generalizing r with
  | nil => rfl
  | cons w ws ih => exact ih.trans length_latches_observe

/-- Registrations stay filed when some workers are observed. -/
theorem Filed.observeAll (h : Filed r) (ht : t < r.observers.pending.length)
    (hlt : ∀ w ∈ ws, w < r.latches.length) : Filed (r.observeAll t ws).2 := by
  induction ws generalizing r with
  | nil => exact h
  | cons w ws ih =>
    have hw := hlt w List.mem_cons_self
    rw [observeAll_cons]
    refine ih (h.observe ht hw) (by simpa only [length_pending_observe] using ht) ?_
    intro v hv
    simpa only [length_latches_observe] using hlt v (List.mem_cons_of_mem _ hv)

/-- What another tracker and its signals mind, they mind still. -/
theorem Minds.observeAll_of_ne {vs : List WorkerId} (h : Minds r t' ss vs) (hne : t' ≠ t)
    (hlt : ∀ w ∈ ws, w < r.latches.length) : Minds (r.observeAll t ws).2 t' ss vs := by
  induction ws generalizing r with
  | nil => exact h
  | cons w ws ih =>
    have hw := hlt w List.mem_cons_self
    rw [observeAll_cons]
    refine ih ⟨h.tallies.observe_of_ne hne w, h.speaks.imp fun _ _ hs => hs.observe t hw⟩ ?_
    intro v hv
    simpa only [length_latches_observe] using hlt v (List.mem_cons_of_mem _ hv)

/-- The tracker and the signals given out mind the workers, after those minded before. -/
theorem minds_observeAll {vs : List WorkerId} (h : Minds r t ss vs) (hf : Filed r)
    (hlt : ∀ w ∈ ws, w < r.latches.length) :
    Minds (r.observeAll t ws).2 t (ss ++ (r.observeAll t ws).1) (vs ++ ws) := by
  induction ws generalizing r ss vs with
  | nil => simpa [observeAll] using h
  | cons w ws ih =>
    have hw := hlt w List.mem_cons_self
    have hstep : Minds (r.observe w t).2 t (ss ++ [r.observers.signals.length]) (vs ++ [w]) :=
      ⟨h.tallies.observe_self hw,
        List.rel_append (h.speaks.imp fun _ _ hs => hs.observe t hw)
          (.cons (speaksFor_observe hf hw) .nil)⟩
    have hrest := ih hstep (hf.observe h.tallies.tracker_lt hw) fun v hv => by
      simpa only [length_latches_observe] using hlt v (List.mem_cons_of_mem _ hv)
    rw [observeAll_cons, signals_observe hw]
    simpa only [List.append_assoc, List.singleton_append] using hrest

end MediaProxy.Registry
