import Mathlib.Data.List.Infix
import MediaProxy.Proofs.Completion.Boards

/-!
# Trackers count what is unfinished

A tracker goes up with every registration and every piece of work that somebody counts by hand, and
down with every piece that is done; it never goes below zero. So it counts what is open as long as
nobody says more often than he has counted that his work is done (`Balanced`): the registrations
with latches that have not been finished, of which those with a latch that was lost stay for good,
and what was counted by hand (`counts_unfinished`).
-/

namespace MediaProxy.Board

variable {b b' : Board} {h : Tally} {acts : List Act} {act : Act} {i n m : Nat} {t : TrackerId}

/-- At no time has anybody's own work been **done more often than counted**. -/
def Balanced (acts : List Act) : Prop :=
  ∀ before, before <+: acts → ∀ t, (tally before).dones t ≤ (tally before).adds t

/-- The trackers of a board **count** what is open. -/
def Counts (h : Tally) (b : Board) : Prop :=
  ∀ t, t < b.observers.pending.length →
    b.observers.pendingOf t + h.dones t = h.openOf t + h.adds t

/-- Before anything has happened no tracker counts anything. -/
theorem counts_start (n m : Nat) : Counts (tally []) (start n m) := by
  intro t ht
  have hzero : (start n m).observers.pendingOf t = 0 := by
    rw [Observers.pendingOf_eq, start, List.getElem?_replicate]
    split <;> rfl
  rw [hzero, tally_nil]
  rfl

namespace Counts

/-- A registration counts unless the work is done. -/
theorem enrol {e : Nat × Registration} (hc : Counts h b) (ha : Accounts h b) (hb : Enrols b e b') :
    Counts (h.register [e]) b' := by
  obtain ⟨l, l', -, hl, -, -, -, -, htrackers, hpending, -⟩ := hb
  intro t ht
  have hbefore := hc t (htrackers ▸ ht)
  have hopen : (if l.isDone then 0 else if e.2.tracker = t then 1 else 0) =
      if h.isOpen t e then 1 else 0 := by
    rw [ha.isDone e.1 l hl, Tally.isOpen]
    cases h.finished e.1 <;> by_cases htracker : e.2.tracker = t <;> simp [htracker]
  have hadds : (h.register [e]).adds t = h.adds t := rfl
  have hdones : (h.register [e]).dones t = h.dones t := rfl
  rw [hpending, hopen, Tally.openOf_register, hadds, hdones]
  omega

/-- However many enrol, the trackers count those whose latch is not done. -/
theorem enrolAll {es : List (Nat × Registration)} (hc : Counts h b) (ha : Accounts h b)
    (hb : Run Enrols b es b') : Counts (h.register es) b' := by
  induction hb with
  | here => simpa [Tally.register] using hc
  | next hrun hlast ih =>
    rw [← Tally.register_append]
    exact ih.enrol (ha.enrolAll hrun) hlast

/-- The end of a latch takes its registrations off, which are all still counted. -/
theorem finish {news : Bool} (hc : Counts h b) (ha : Accounts h b)
    (hbalanced : ∀ t, h.dones t ≤ h.adds t) (hb : b.finish i = some (news, b')) :
    Counts (h.finish i) b' := by
  obtain ⟨l, hl, ⟨hdone, -, rfl⟩ | ⟨hdone, -, rfl⟩⟩ := finish_eq_some hb
  · rwa [h.finish_of_finished (ha.isDone i l hl ▸ hdone)]
  have hfinished : h.finished i = false := ha.isDone i l hl ▸ hdone
  have hregistrations : l.registrations = h.registeredWith i := by
    rw [ha.registrations i l hl, hfinished]
    rfl
  intro t ht
  have hbefore := hc t (by simpa using ht)
  have hclosed := h.openOf_finish (t := t) hfinished
  have hadds : (h.finish i).adds t = h.adds t := rfl
  have hdones : (h.finish i).dones t = h.dones t := rfl
  have := hbalanced t
  rw [Latch.pendingOf_foldl_notify, hregistrations, hadds, hdones]
  omega

/-- No tracker learns that a latch is lost. -/
theorem drop (hc : Counts h b) (hb : b.drop i = some b') : Counts (h.drop i) b' := by
  obtain ⟨l, -, rfl⟩ := drop_eq_some hb
  intro t ht
  rw [Latch.length_pending_drop] at ht
  rw [Latch.pendingOf_drop]
  exact hc t ht

/-- A call of `add` is counted. -/
theorem add (hc : Counts h b) (ht : t < b.observers.pending.length) :
    Counts (h.add t) { b with observers := b.observers.add t } := by
  intro t' ht'
  have hbefore := hc t' (by simpa using ht')
  have hadds : (h.add t).adds t' = h.adds t' + if t = t' then 1 else 0 := rfl
  have hdones : (h.add t).dones t' = h.dones t' := rfl
  have hopen : (h.add t).openOf t' = h.openOf t' := rfl
  rw [Observers.pendingOf_add b.observers t t' ht, hadds, hdones, hopen]
  omega

/-- What was counted by hand is still counted when it is done. -/
theorem done (hc : Counts h b) (hbalanced : h.dones t + 1 ≤ h.adds t) :
    Counts (h.done t) { b with observers := b.observers.done t } := by
  intro t' ht'
  have hbefore := hc t' (by simpa using ht')
  have hadds : (h.done t).adds t' = h.adds t' := rfl
  have hdones : (h.done t).dones t' = h.dones t' + if t = t' then 1 else 0 := rfl
  have hopen : (h.done t).openOf t' = h.openOf t' := rfl
  rw [Observers.pendingOf_done, hadds, hdones, hopen]
  by_cases heq : t = t'
  · subst heq
    rw [if_pos rfl, if_pos rfl]
    omega
  · rw [if_neg (Ne.symm heq), if_neg heq]
    omega

end Counts

/-- Every step of the board keeps the trackers' counts right, while no more is taken off than was
put on. -/
theorem Step.counts (ha : Accounts (tally acts) b) (hc : Counts (tally acts) b)
    (hbalanced : Balanced (acts ++ [act])) (hs : Step b act b') :
    Counts (tally (acts ++ [act])) b' := by
  have hbefore := hbalanced acts (List.prefix_append ..)
  have hafter := hbalanced _ (List.prefix_refl _)
  rw [tally_concat] at hafter ⊢
  cases hs with
  | observes ht hobserved =>
    rw [Tally.next_registers _ rfl]
    exact hc.enrol ha (enrols_observe ht hobserved)
  | observesAll latches ht =>
    rw [Tally.next_registers _ rfl]
    exact hc.enrolAll ha (run_observeAll latches ht)
  | waitsForAny ht hreturns =>
    rw [Tally.next_registers _ rfl]
    exact hc.enrolAll ha (run_waitForAny hreturns ht)
  | finishes hfinished =>
    rw [Tally.next_finishes]
    exact hc.finish ha hbefore hfinished
  | drops hdropped =>
    rw [Tally.next_drops]
    exact hc.drop hdropped
  | adds ht =>
    rw [Tally.next_adds]
    exact hc.add ht
  | @dones t ht =>
    rw [Tally.next_dones] at hafter ⊢
    refine hc.done ?_
    simpa [Tally.done] using hafter t
  | polls =>
    rw [Tally.next_polls]
    exact hc
  | waits _ hreturns hfound =>
    obtain ⟨_, -, -, rfl⟩ := hreturns
    rw [Tally.next_waits _ hfound]
    exact hc

/-- After every balanced history the trackers' counts are right. -/
theorem counts_run (hrun : Run Step (start n m) acts b) (hbalanced : Balanced acts) :
    Counts (tally acts) b := by
  induction hrun with
  | here => exact counts_start n m
  | @next _ _ acts act hrun hlast ih =>
    have hearlier : Balanced acts := fun before hpart =>
      hbalanced before (hpart.trans (List.prefix_append ..))
    exact hlast.counts (account_run hrun) (ih hearlier) hbalanced

/-! ## What a tracker says -/

/-- Nobody who enrols makes a tracker. -/
theorem length_pending_of_run {es : List (Nat × Registration)} (hb : Run Enrols b es b') :
    b'.observers.pending.length = b.observers.pending.length := by
  induction hb with
  | here => rfl
  | next _ hlast ih =>
    obtain ⟨-, -, -, -, -, -, -, -, htrackers, -⟩ := hlast
    exact htrackers.trans ih

/-- No tracker comes or goes. -/
theorem Step.length_pending (hs : Step b act b') :
    b'.observers.pending.length = b.observers.pending.length := by
  cases hs with
  | observes ht hobserved =>
    exact length_pending_of_run (.single (enrols_observe ht hobserved))
  | observesAll latches ht => exact length_pending_of_run (run_observeAll latches ht)
  | waitsForAny ht hreturns => exact length_pending_of_run (run_waitForAny hreturns ht)
  | finishes hfinished =>
    obtain ⟨l, -, ⟨-, -, rfl⟩ | ⟨-, -, rfl⟩⟩ := finish_eq_some hfinished
    · rfl
    · exact Latch.length_pending_foldl_notify ..
  | drops hdropped =>
    obtain ⟨l, -, rfl⟩ := drop_eq_some hdropped
    exact Latch.length_pending_drop ..
  | adds => exact Observers.length_pending_add ..
  | dones => exact Observers.length_pending_done ..
  | polls => rfl
  | waits _ hreturns =>
    obtain ⟨_, -, -, rfl⟩ := hreturns
    rfl

/-- There are as many trackers after a run as at its beginning. -/
theorem length_pending_run (hrun : Run Step (start n m) acts b) : b.observers.pending.length = m := by
  induction hrun with
  | here => exact List.length_replicate
  | next _ hlast ih => exact hlast.length_pending.trans ih

/-- No registration is open exactly if the latches of all of them are finished. -/
theorem openOf_eq_zero_iff (h : Tally) (t : TrackerId) :
    h.openOf t = 0 ↔ ∀ e ∈ h.registered, e.2.tracker = t → h.finished e.1 = true := by
  rw [Tally.openOf, List.countP_eq_zero]
  refine forall₂_congr fun e _ => ?_
  by_cases hf : h.finished e.1 = true <;> simp [Tally.isOpen, hf]

/-- **A tracker counts exactly the unfinished registrations.** After whatever has been done on a
board of latches and trackers, as long as no own work is done more often than counted: a tracker
counts its registrations with latches that have not been finished, each as often as it was made and
those with lost latches too, and its own work that is not done. So it is idle exactly when every
latch that it was registered with has been finished and all of its own work is done. -/
theorem counts_unfinished (hrun : Run Step (start n m) acts b) (hbalanced : Balanced acts)
    (ht : t < m) :
    b.observers.pendingOf t =
        (tally acts).openOf t + ((tally acts).adds t - (tally acts).dones t) ∧
      (b.observers.isIdle t = true ↔
        (∀ e ∈ (tally acts).registered, e.2.tracker = t → (tally acts).finished e.1 = true) ∧
          (tally acts).adds t = (tally acts).dones t) := by
  have hcounts := counts_run hrun hbalanced t (length_pending_run hrun ▸ ht)
  have hless := hbalanced acts (List.prefix_refl _) t
  refine ⟨by omega, ?_⟩
  rw [Observers.isIdle, decide_eq_true_eq, ← openOf_eq_zero_iff]
  omega

/-! A tracker with three registrations of its own and one piece of own work. -/

/-- One latch is done, the other one is lost, and then the own work is done. -/
def mixedActs : List Act :=
  [.observes 0 0 0, .observesAll 0 [0, 1] [1, 2], .adds 0, .finishes 0 true, .drops 1,
    .waitsForAny 0 [0] 0, .dones 0]

/-- No more is taken off in the mixed acts than was put on before. -/
theorem balanced_mixedActs : Balanced mixedActs := by
  intro before hpart t
  by_cases ht : t = 0
  · subst ht
    have hall : ∀ before ∈ mixedActs.inits, (tally before).dones 0 ≤ (tally before).adds 0 := by
      decide
    exact hall before ((List.mem_inits ..).mpr hpart)
  · have hnone : (tally mixedActs).dones t = 0 := by simp [tally, mixedActs, Ne.symm ht]
    have hle : (tally before).dones t ≤ (tally mixedActs).dones t :=
      hpart.sublist.countP_le
    omega

theorem counts_unfinished_mixedActs :
    ∃ b, Run Step (start 2 1) mixedActs b ∧ Balanced mixedActs ∧ b.observers.pendingOf 0 = 1 ∧
      b.observers.isIdle 0 = false := by
  obtain ⟨b, hrun⟩ : ∃ b, Run Step (start 2 1) mixedActs b := by
    refine ⟨_, .cons (.observes ?_ rfl) <| .cons (.observesAll [0, 1] ?_) <| .cons (.adds ?_) <|
      .cons (.finishes rfl) <| .cons (.drops rfl) <|
      .cons (@Step.waitsForAny _ 0 [0] 0 _ ?_ ⟨⟨0, .finished, rfl, rfl, rfl⟩, rfl⟩) <|
      .cons (.dones ?_) <| .here _⟩ <;>
    decide
  obtain ⟨hpending, hidle⟩ :=
    counts_unfinished (t := 0) hrun balanced_mixedActs (by decide)
  refine ⟨b, hrun, balanced_mixedActs, hpending, ?_⟩
  rw [← Bool.not_eq_true, hidle]
  decide

end MediaProxy.Board
