import Mathlib.Data.List.Forall2
import MediaProxy.Proofs.Completion.Notices
import MediaProxy.Registry.Basic

/-!
# Who watches whom

The registry learns of its workers through a tracker and signals only. This module says when those
tell the truth about a list of workers: the tracker counts exactly those that are still at work
(`Tallies`), and each signal is ready exactly when its worker is done (`SpeaksFor`). Together they
mind the workers (`Minds`). A worker may be listed more than once and is counted as often then;
where that is not so, tracker and signals are said to watch the workers (`Counts`, `Watches`).

All of it is kept by every operation on latches. What carries it is a clause about the registrations
that the latches hold: an unfinished worker's latch has as many registrations of the tracker as the
worker is listed times; and it holds a signal only if the signal is its own. So the completion of a
worker lowers the right trackers, by the right amount, and raises the right signals.
-/

namespace MediaProxy.Registry

variable {κ σ : Type} {r : Registry κ σ} {t t' : TrackerId} {s : SignalId} {w w' : WorkerId}
  {ss : List SignalId} {ws : List WorkerId}

/-! ## The operations on latches -/

/-- A worker is done exactly if its latch is. -/
theorem isFinished_of_latch {latch : Latch} (h : r.latches[w]? = some latch) :
    r.isFinished w = latch.isDone := by
  simp [isFinished, h]

/-- Only workers that there are can be done. -/
theorem lt_of_isFinished (h : r.isFinished w = true) : w < r.latches.length := by
  cases hl : r.latches[w]? with
  | none => simp [isFinished, hl] at h
  | some latch => exact (List.getElem?_eq_some_iff.mp hl).1

/-- A completion that is no news changes nothing. -/
theorem finish_of_isFinished (h : r.isFinished w = true) : r.finish w = (false, r) := by
  cases hl : r.latches[w]? with
  | none => simp [isFinished, hl] at h
  | some latch =>
    have hd : latch.isDone = true := by rwa [isFinished_of_latch hl] at h
    have hset : r.latches.set w latch = r.latches := by
      obtain ⟨hlt, rfl⟩ := List.getElem?_eq_some_iff.mp hl
      exact List.set_getElem_self hlt
    simp [finish, hl, Latch.finish, hd, hset]

/-- A completion that is news: the latch is done and its registrations are told. -/
theorem finish_of_latch {latch : Latch} (hl : r.latches[w]? = some latch)
    (hd : latch.isDone = false) :
    r.finish w = (true, { r with
      latches := r.latches.set w .finished
      observers := latch.registrations.foldl Latch.notify r.observers }) := by
  simp [finish, hl, Latch.finish, hd]

/-- A worker that does not exist is never done. -/
theorem finish_of_none (hl : r.latches[w]? = none) : r.finish w = (false, r) := by
  simp [finish, hl]

@[simp] theorem entries_finish : (r.finish w).2.entries = r.entries := by
  cases hl : r.latches[w]? <;> simp [finish, hl]

@[simp] theorem bound_finish : (r.finish w).2.bound = r.bound := by
  cases hl : r.latches[w]? <;> simp [finish, hl]

@[simp] theorem world_finish : (r.finish w).2.world = r.world := by
  cases hl : r.latches[w]? <;> simp [finish, hl]

@[simp] theorem length_latches_finish : (r.finish w).2.latches.length = r.latches.length := by
  cases hl : r.latches[w]? <;> simp [finish, hl]

/-- A worker that is finished is done, and no other one is for that. -/
theorem isFinished_finish :
    (r.finish w).2.isFinished w' =
      (r.isFinished w' || (decide (w' = w) && decide (w < r.latches.length))) := by
  cases hl : r.latches[w]? with
  | none =>
    have hge : ¬ w < r.latches.length := by simpa using hl
    simp [finish_of_none hl, hge]
  | some latch =>
    have hlt := (List.getElem?_eq_some_iff.mp hl).1
    cases hd : latch.isDone with
    | true =>
      have hw : r.isFinished w = true := by rw [isFinished_of_latch hl, hd]
      rw [finish_of_isFinished hw]
      by_cases h : w' = w
      · simp [h, hw]
      · simp [h]
    | false =>
      rw [finish_of_latch hl hd]
      by_cases h : w' = w
      · subst h
        simp [isFinished, hlt, Latch.finished]
      · simp [isFinished, h, Ne.symm h]

/-- The latch of a worker that is still at work after a completion is another one's, as it was. -/
theorem latch_of_finish {latch : Latch} (hl : (r.finish w).2.latches[w']? = some latch)
    (hd : latch.isDone = false) : w' ≠ w ∧ r.latches[w']? = some latch := by
  have hnot : r.isFinished w' = false ∧ ¬ (w' = w ∧ w < r.latches.length) := by
    have := isFinished_of_latch hl
    rw [isFinished_finish, hd] at this
    simpa using this
  have hne : w' ≠ w := by
    rintro rfl
    have hlt := (List.getElem?_eq_some_iff.mp hl).1
    exact hnot.2 ⟨rfl, by simpa using hlt⟩
  refine ⟨hne, ?_⟩
  cases hw : r.latches[w]? with
  | none => rwa [finish_of_none hw] at hl
  | some old =>
    cases ho : old.isDone with
    | true => rwa [finish_of_isFinished (by rw [isFinished_of_latch hw, ho])] at hl
    | false => simpa [finish_of_latch hw ho, hne.symm] using hl

/-- What is done stays done. -/
theorem isFinished_finish_of_isFinished (h : r.isFinished w' = true) :
    (r.finish w).2.isFinished w' = true := by
  simp [isFinished_finish, h]

/-! ## Counting and speaking -/

/-- Every registration is one of a tracker and a signal that there are. -/
def Filed (r : Registry κ σ) : Prop :=
  ∀ ⦃w : WorkerId⦄ ⦃latch : Latch⦄, r.latches[w]? = some latch → ∀ g ∈ latch.registrations,
    g.tracker < r.observers.pending.length ∧ ∀ s, g.signal = some s → s < r.observers.signals.length

/-- A tracker **tallies** some workers: it counts those that are still at work, each as often as it
is listed. -/
structure Tallies (r : Registry κ σ) (t : TrackerId) (ws : List WorkerId) : Prop where
  tracker_lt : t < r.observers.pending.length
  employed : ∀ w ∈ ws, w < r.latches.length
  pending : r.observers.pendingOf t = ws.countP fun w => !r.isFinished w
  registered : ∀ ⦃w : WorkerId⦄ ⦃latch : Latch⦄, r.latches[w]? = some latch → latch.isDone = false →
    latch.registrations.countP (·.tracker = t) = ws.count w

/-- A tracker **counts** those of some workers that are still at work. -/
structure Counts (r : Registry κ σ) (t : TrackerId) (ws : List WorkerId) : Prop where
  tracker_lt : t < r.observers.pending.length
  nodup : ws.Nodup
  employed : ∀ w ∈ ws, w < r.latches.length
  pending : r.observers.pendingOf t = ws.countP fun w => !r.isFinished w
  registered : ∀ ⦃w : WorkerId⦄ ⦃latch : Latch⦄, r.latches[w]? = some latch → latch.isDone = false →
    latch.registrations.countP (·.tracker = t) = if w ∈ ws then 1 else 0

/-- A signal **speaks for** a worker. -/
structure SpeaksFor (r : Registry κ σ) (s : SignalId) (w : WorkerId) : Prop where
  employed : w < r.latches.length
  signal_lt : s < r.observers.signals.length
  ready : (r.observers.signal s).isReady = r.isFinished w
  registered : ∀ ⦃w' : WorkerId⦄ ⦃latch : Latch⦄, r.latches[w']? = some latch → latch.isDone = false →
    ((∃ g ∈ latch.registrations, g.signal = some s) ↔ w' = w)

/-- A tracker and signals **mind** some workers. -/
structure Minds (r : Registry κ σ) (t : TrackerId) (ss : List SignalId) (ws : List WorkerId) :
    Prop where
  tallies : Tallies r t ws
  speaks : List.Forall₂ (SpeaksFor r) ss ws

/-- A tracker and signals **watch** some workers. -/
structure Watches (r : Registry κ σ) (t : TrackerId) (ss : List SignalId) (ws : List WorkerId) :
    Prop where
  counts : Counts r t ws
  speaks : List.Forall₂ (SpeaksFor r) ss ws

/-- To count is to tally workers that are listed once. -/
theorem counts_iff : Counts r t ws ↔ Tallies r t ws ∧ ws.Nodup := by
  constructor
  · intro h
    refine ⟨⟨h.tracker_lt, h.employed, h.pending, ?_⟩, h.nodup⟩
    intro w latch hl hd
    rw [h.registered hl hd, h.nodup.count]
  · rintro ⟨h, hnd⟩
    refine ⟨h.tracker_lt, hnd, h.employed, h.pending, ?_⟩
    intro w latch hl hd
    rw [h.registered hl hd, hnd.count]

/-- To watch workers is to mind them, each once. -/
theorem watches_iff : Watches r t ss ws ↔ Minds r t ss ws ∧ ws.Nodup :=
  ⟨fun h => ⟨⟨(counts_iff.mp h.counts).1, h.speaks⟩, h.counts.nodup⟩,
    fun ⟨h, hnd⟩ => ⟨counts_iff.mpr ⟨h.tallies, hnd⟩, h.speaks⟩⟩

/-- A tracker is idle exactly when all the workers that it tallies are done. -/
theorem Tallies.isIdle_iff (h : Tallies r t ws) :
    r.observers.isIdle t = true ↔ ∀ w ∈ ws, r.isFinished w = true := by
  simp [Observers.isIdle, h.pending, List.countP_eq_zero]

/-- Some signal is ready exactly when some worker is done. -/
theorem Minds.any_isReady_iff (h : Minds r t ss ws) :
    (ss.any fun s => (r.observers.signal s).isReady) = true ↔ ∃ w ∈ ws, r.isFinished w = true := by
  have hs := h.speaks
  clear h
  induction hs with
  | nil => simp
  | cons hw _ ih => simp only [List.any_cons, Bool.or_eq_true, hw.ready, ih, List.exists_mem_cons_iff]

/-! ## Completions -/

/-- One worker more that is done takes as many off as there were of it. -/
theorem countP_finish {f : WorkerId → Bool} (ws : List WorkerId) (hf : f w = false) :
    (ws.countP fun w' => !(f w' || decide (w' = w))) = (ws.countP fun w' => !f w') - ws.count w := by
  have hsplit : ∀ ws : List WorkerId, (ws.countP fun w' => !f w') =
      (ws.countP fun w' => !(f w' || decide (w' = w))) + ws.count w := by
    intro ws
    induction ws with
    | nil => rfl
    | cons v ws ih =>
      rw [List.countP_cons, List.countP_cons, List.count_cons, ih]
      by_cases h : v = w
      · subst h
        simp only [hf, beq_self_eq_true, decide_true, Bool.or_true, Bool.not_false, Bool.not_true,
          Bool.false_eq_true, if_true, if_false]
        omega
      · simp only [h, beq_eq_false_iff_ne.mpr h, decide_false, Bool.or_false, Bool.false_eq_true,
          if_false]
        omega
  rw [hsplit ws, Nat.add_sub_cancel]

/-- Registrations stay filed when a worker is done. -/
theorem Filed.finish (h : Filed r) (w : WorkerId) : Filed (r.finish w).2 := by
  cases hl : r.latches[w]? with
  | none => rwa [finish_of_none hl]
  | some latch =>
    cases hd : latch.isDone with
    | true => rwa [finish_of_isFinished (by rw [isFinished_of_latch hl, hd])]
    | false =>
      simp only [finish_of_latch hl hd]
      intro w' latch' hl' g hg
      by_cases hw : w = w'
      · subst hw
        obtain rfl : Latch.finished = latch' := by
          simpa [(List.getElem?_eq_some_iff.mp hl).1] using hl'
        exact absurd hg (by simp [Latch.finished])
      · simpa using h (by simpa [List.getElem?_set, hw] using hl') g hg

/-- A tracker goes on tallying when a worker is done. -/
theorem Tallies.finish (h : Tallies r t ws) (w : WorkerId) : Tallies (r.finish w).2 t ws := by
  cases hl : r.latches[w]? with
  | none => rwa [finish_of_none hl]
  | some latch =>
    cases hd : latch.isDone with
    | true => rwa [finish_of_isFinished (by rw [isFinished_of_latch hl, hd])]
    | false =>
      have hlt := (List.getElem?_eq_some_iff.mp hl).1
      have hfin : ∀ w', (r.finish w).2.isFinished w' = (r.isFinished w' || decide (w' = w)) := by
        simp [isFinished_finish, hlt]
      refine ⟨?_, ?_, ?_, ?_⟩
      · simpa [finish_of_latch hl hd] using h.tracker_lt
      · simpa using h.employed
      · simp only [hfin]
        rw [countP_finish ws (by rw [isFinished_of_latch hl, hd]), ← h.pending,
          ← h.registered hl hd, finish_of_latch hl hd]
        exact Latch.pendingOf_foldl_notify ..
      · intro w' latch' hl' hd'
        exact h.registered (latch_of_finish hl' hd').2 hd'

/-- A signal goes on speaking for its worker when one is done. -/
theorem SpeaksFor.finish (h : SpeaksFor r s w') (w : WorkerId) : SpeaksFor (r.finish w).2 s w' := by
  cases hl : r.latches[w]? with
  | none => rwa [finish_of_none hl]
  | some latch =>
    cases hd : latch.isDone with
    | true => rwa [finish_of_isFinished (by rw [isFinished_of_latch hl, hd])]
    | false =>
      have hlt := (List.getElem?_eq_some_iff.mp hl).1
      refine ⟨by simpa using h.employed, ?_, ?_, ?_⟩
      · simpa [finish_of_latch hl hd] using h.signal_lt
      · rw [isFinished_finish, finish_of_latch hl hd]
        simp only [Latch.isReady_foldl_notify, h.ready, hlt, decide_true, Bool.and_true]
        congr 1
        rw [Bool.eq_iff_iff, List.any_eq_true, decide_eq_true_eq, eq_comm, ← h.registered hl hd]
        simp
      · intro v latch' hl' hd'
        exact h.registered (latch_of_finish hl' hd').2 hd'

/-- Workers are minded on when one of them is done. -/
theorem Minds.finish (h : Minds r t ss ws) (w : WorkerId) : Minds (r.finish w).2 t ss ws :=
  ⟨h.tallies.finish w, h.speaks.imp fun _ _ hs => hs.finish w⟩

end MediaProxy.Registry
