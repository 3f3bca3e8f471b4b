import MediaProxy.Proofs.Completion.Boards

/-!
# Signals deliver once

Whatever is done on a board of latches, in any order: a latch is finished once, and of all calls
that finish it exactly one is news; every signal delivers one notice when its latch has been
finished, none before, and none at all if the latch is lost before that, of which the signal tells
instead. A wait for any of several signals returns exactly when one of them has something to tell,
and takes the notice of that one only (`Delivers`, `delivers_run`).

What a wait comes to is computed where it leaves no choice; `AnyWait.Fits` says what each of its
answers means for the returns that there are.
-/

namespace MediaProxy

namespace Board

variable {b b' after : Board} {acts more : List Act} {act : Act} {i n m position : Nat}
  {t : TrackerId} {s : SignalId} {signals : List SignalId}

/-! ## Waits -/

/-- Some wait for signals may return exactly if one of them is not silent. -/
theorem exists_waitAny_iff :
    (∃ position after, b.WaitAny signals position after) ↔
      ∃ s ∈ signals, b.observers.signal s ≠ .silent := by
  have hready : ∀ x : Signal, x.isReady = true ↔ x ≠ .silent := by
    intro x
    cases x <;> simp [Signal.isReady]
  constructor
  · rintro ⟨position, _, s, hs, hsignal, -⟩
    exact ⟨s, List.mem_of_getElem? hs, (hready _).mp hsignal⟩
  · rintro ⟨s, hmem, hsignal⟩
    obtain ⟨position, hs⟩ := List.mem_iff_getElem?.mp hmem
    exact ⟨position, _, s, hs, (hready _).mpr hsignal, rfl⟩

/-- A wait that returns leaves everything as it is but the one signal that it has found, which has
nothing more to tell. -/
theorem WaitAny.takes (h : b.WaitAny signals position after) :
    ∃ s, signals[position]? = some s ∧ b.observers.signal s ≠ .silent ∧
      after.observers.signal s = .closed ∧
      (∀ s', s' ≠ s → after.observers.signal s' = b.observers.signal s') ∧
      after.latches = b.latches ∧ after.observers.pending = b.observers.pending := by
  obtain ⟨s, hs, hready, rfl⟩ := h
  refine ⟨s, hs, ?_, ?_, fun s' hne => ?_, rfl, rfl⟩
  · intro hsilent
    rw [hsilent] at hready
    cases hready
  · rw [Observers.signal_take]
    cases hsignal : b.observers.signal s <;> simp_all [Signal.isReady]
  · rw [Observers.signal_take, if_neg fun hboth => hne hboth.1]

/-- The positions that are ready are those whose signal is. -/
theorem mem_readyAt_iff {o : Observers} :
    position ∈ o.readyAt signals ↔
      ∃ s, signals[position]? = some s ∧ (o.signal s).isReady = true := by
  rw [Observers.readyAt, List.mem_filter, List.mem_range]
  constructor
  · rintro ⟨-, hready⟩
    rw [Option.any_eq_true] at hready
    obtain ⟨x, hx, hready⟩ := hready
    obtain ⟨s, hs, rfl⟩ := Option.map_eq_some_iff.mp hx
    exact ⟨s, hs, hready⟩
  · rintro ⟨s, hs, hready⟩
    exact ⟨(List.getElem?_eq_some_iff.mp hs).1, by simp [hs, hready]⟩

end Board

/-- What the answer of a wait for so many things **means** for the returns that there are. -/
def AnyWait.Fits (b : Board) (waitedFor : Nat) (Returns : Nat → Board → Prop) (after : Board) :
    AnyWait → Prop
  | .nothing => waitedFor = 0 ∧ after = b
  | .blocks => waitedFor ≠ 0 ∧ (∀ position after', ¬Returns position after') ∧ after = b
  | .returns position => Returns position after ∧
      ∀ position' after', Returns position' after' → position' = position
  | .undecided => (∃ position position' after₁ after₂, position ≠ position' ∧
      Returns position after₁ ∧ Returns position' after₂) ∧ after = b

namespace Board

variable {b b' after : Board} {acts more : List Act} {act : Act} {i n m position : Nat}
  {t : TrackerId} {s : SignalId} {signals : List SignalId}

/-- An answer that is judged by the positions where a wait may return is right: it says that there
is nothing to wait for, that no return is possible, that one is, or that several are. -/
theorem fits_judge (b : Board) (waitedFor : Nat) (Returns : Nat → Board → Prop) {ready : List Nat}
    (hnodup : ready.Nodup)
    (hready : ∀ position, (∃ after, Returns position after) ↔ position ∈ ready) {after : Board}
    (hreturns : ∀ position, judge waitedFor ready = .returns position → Returns position after)
    (hother : (∀ position, judge waitedFor ready ≠ .returns position) → after = b) :
    (judge waitedFor ready).Fits b waitedFor Returns after := by
  unfold judge at hreturns hother ⊢
  by_cases hempty : waitedFor = 0
  · rw [if_pos hempty] at hother ⊢
    exact ⟨hempty, hother nofun⟩
  rw [if_neg hempty] at hreturns hother ⊢
  cases ready with
  | nil =>
    refine ⟨hempty, fun position after' h => ?_, hother nofun⟩
    exact absurd ((hready position).mp ⟨after', h⟩) List.not_mem_nil
  | cons first rest =>
    cases rest with
    | nil =>
      refine ⟨hreturns first rfl, fun position after' h => ?_⟩
      exact List.mem_singleton.mp ((hready position).mp ⟨after', h⟩)
    | cons second rest =>
      obtain ⟨after₁, h₁⟩ := (hready first).mpr List.mem_cons_self
      obtain ⟨after₂, h₂⟩ := (hready second).mpr (List.mem_cons_of_mem _ List.mem_cons_self)
      refine ⟨⟨first, second, after₁, after₂, ?_, h₁, h₂⟩, hother nofun⟩
      rintro rfl
      exact (List.nodup_cons.mp hnodup).1 List.mem_cons_self

/-- A wait for any signal can return a position exactly if it is ready. -/
theorem exists_waitAny_at_iff :
    (∃ after, b.WaitAny signals position after) ↔ position ∈ b.observers.readyAt signals := by
  rw [mem_readyAt_iff]
  constructor
  · rintro ⟨_, s, hs, hready, -⟩
    exact ⟨s, hs, hready⟩
  · rintro ⟨s, hs, hready⟩
    exact ⟨_, s, hs, hready, rfl⟩

/-- A wait returns a position only if it is ready. -/
theorem position_of_judge {waitedFor : Nat} {ready : List Nat}
    (h : judge waitedFor ready = .returns position) : position ∈ ready := by
  unfold judge at h
  split at h
  · cases h
  split at h
  · cases h
  · cases h
    exact List.mem_singleton_self _
  · cases h

/-- What a wait for any signal comes to is one of what it may come to. -/
theorem fits_waitAny (b : Board) (signals : List SignalId) :
    (b.waitAny signals).1.Fits b signals.length (b.WaitAny signals) (b.waitAny signals).2 := by
  have hnodup : (b.observers.readyAt signals).Nodup := List.nodup_range.filter _
  unfold waitAny
  cases hjudge : judge signals.length (b.observers.readyAt signals) with
  | returns position =>
    obtain ⟨s, hs, hready⟩ := mem_readyAt_iff.mp (position_of_judge hjudge)
    simp only [hs]
    rw [← hjudge]
    refine fits_judge b _ _ hnodup (fun _ => exists_waitAny_at_iff) (fun position' h => ?_) fun h =>
      absurd hjudge (h position)
    obtain rfl := AnyWait.returns.inj (hjudge.symm.trans h)
    exact ⟨s, hs, hready, rfl⟩
  | nothing | blocks | undecided =>
    simp only
    rw [← hjudge]
    exact fits_judge b _ _ hnodup (fun _ => exists_waitAny_at_iff)
      (fun position' h => nomatch hjudge.symm.trans h) fun _ => rfl

/-- The positions of those latches that are done. -/
def doneAt (b : Board) (latches : List Nat) : List Nat :=
  (List.range (b.present latches).length).filter fun k =>
    (((b.present latches)[k]?.bind b.latch?).map Latch.isDone).getD false

theorem waitForAny_eq (b : Board) (t : TrackerId) (latches : List Nat) :
    b.waitForAny t latches =
      match judge (b.present latches).length (b.doneAt latches) with
      | .returns i => (.returns i, (b.present latches).foldl (fun b i => b.observeUnheard i t) b)
      | other => (other, b) := rfl

/-- A wait for any latch can return a position exactly if the latch there is done. -/
theorem exists_waitForAny_at_iff {latches : List Nat} :
    (∃ after, b.WaitForAny t latches position after) ↔ position ∈ b.doneAt latches := by
  rw [doneAt, List.mem_filter, List.mem_range]
  constructor
  · rintro ⟨_, ⟨i, l, hi, hl, hdone⟩, -⟩
    exact ⟨(List.getElem?_eq_some_iff.mp hi).1, by simp [hi, hl, hdone]⟩
  · rintro ⟨hlt, hdone⟩
    have hi := List.getElem?_eq_getElem hlt
    obtain ⟨l, hl⟩ := Option.isSome_iff_exists.mp (List.mem_filter.mp (List.getElem_mem hlt)).2
    exact ⟨_, ⟨_, l, hi, hl, by simpa [hi, hl] using hdone⟩, rfl⟩

/-- What a wait for any latch comes to is one of what it may come to. -/
theorem fits_waitForAny (b : Board) (t : TrackerId) (latches : List Nat) :
    (b.waitForAny t latches).1.Fits b (b.present latches).length (b.WaitForAny t latches)
      (b.waitForAny t latches).2 := by
  have hnodup : (b.doneAt latches).Nodup := List.nodup_range.filter _
  rw [waitForAny_eq]
  cases hjudge : judge (b.present latches).length (b.doneAt latches) with
  | returns position =>
    obtain ⟨_, hfound, -⟩ := (exists_waitForAny_at_iff (t := t)).mpr (position_of_judge hjudge)
    simp only
    rw [← hjudge]
    refine fits_judge b _ _ hnodup (fun _ => exists_waitForAny_at_iff) (fun position' h => ?_)
      fun h => absurd hjudge (h position)
    obtain rfl := AnyWait.returns.inj (hjudge.symm.trans h)
    exact ⟨hfound, rfl⟩
  | nothing | blocks | undecided =>
    simp only
    rw [← hjudge]
    exact fits_judge b _ _ hnodup (fun _ => exists_waitForAny_at_iff)
      (fun position' h => nomatch hjudge.symm.trans h) fun _ => rfl

/-- A wait for any of several latches changes no signal that there is. -/
theorem signal_of_run_observeUnheard {es : List (Nat × Registration)} (hb : Run Enrols b es b')
    (hunheard : ∀ e ∈ es, e.2.signal = none) (s : SignalId) :
    b'.observers.signal s = b.observers.signal s := by
  induction hb with
  | here => rfl
  | @next _ _ _ e _ hlast ih =>
    obtain ⟨l, _, -, -, -, -, -, -, -, -, hsignals, -⟩ := hlast
    have hnone : e.2.signal = none := hunheard e (List.mem_append_right _ (List.mem_singleton_self e))
    rw [hsignals s, hnone, if_neg nofun]
    exact ih fun e he => hunheard e (List.mem_append_left _ he)

/-- A wait for any of several latches may return at once exactly if one of them is done. -/
theorem exists_waitForAny_iff {h : Tally} (ha : Accounts h b) (latches : List Nat) :
    (∃ position after, b.WaitForAny t latches position after) ↔
      ∃ i ∈ b.present latches, h.finished i = true := by
  constructor
  · rintro ⟨position, after, ⟨i, l, hi, hl, hdone⟩, -⟩
    exact ⟨i, List.mem_of_getElem? hi, ha.isDone i l hl ▸ hdone⟩
  · rintro ⟨i, hmem, hfinished⟩
    obtain ⟨position, hi⟩ := List.mem_iff_getElem?.mp hmem
    obtain ⟨l, hl⟩ := Option.isSome_iff_exists.mp (List.mem_filter.mp hmem).2
    exact ⟨position, _, ⟨i, l, hi, hl, (ha.isDone i l hl).trans hfinished⟩, rfl⟩

/-! ## Lost latches -/

/-- What is lost before it was finished is **never finished**. -/
theorem Step.lost (ha : Accounts (tally acts) b) (hs : Step b act b')
    (hdropped : (tally acts).dropped i = true) (hunfinished : (tally acts).finished i = false) :
    (tally (acts ++ [act])).dropped i = true ∧ (tally (acts ++ [act])).finished i = false := by
  rw [tally_concat]
  refine ⟨by simp [Tally.next, hdropped], ?_⟩
  have hother : act.isFinishOf i = false := by
    cases hs with
    | @finishes j _ _ hfinished =>
      obtain ⟨l, hl, -⟩ := finish_eq_some hfinished
      have hpresent := ha.dropped_of_latch? hl
      refine decide_eq_false fun heq => ?_
      rw [heq, hdropped] at hpresent
      cases hpresent
    | _ => rfl
  simp [Tally.next, hunfinished, hother]

/-- Registrations are not taken back. -/
theorem registered_subset_append (acts more : List Act) :
    (tally acts).registered ⊆ (tally (acts ++ more)).registered := by
  intro e he
  simpa [tally] using .inl (by simpa [tally] using he)

/-- A latch that was dropped before it was done stays so for good. -/
theorem lost_run (hrun : Run Step (start n m) acts b) (hmore : Run Step b more b')
    (hdropped : (tally acts).dropped i = true) (hunfinished : (tally acts).finished i = false) :
    (tally (acts ++ more)).dropped i = true ∧ (tally (acts ++ more)).finished i = false := by
  induction hmore with
  | here => simpa using ⟨hdropped, hunfinished⟩
  | next hrun' hlast ih =>
    rw [← List.append_assoc]
    exact hlast.lost (account_run (hrun.trans hrun')) ih.1 ih.2

/-! ## Ends of latches -/

/-- Of all calls that finish a latch exactly one is **news**. -/
theorem news_run (hrun : Run Step (start n m) acts b) (i : Nat) :
    acts.countP (· = .finishes i true) = if (tally acts).finished i then 1 else 0 := by
  induction hrun with
  | here => rfl
  | @next _ _ acts act hrun hlast ih =>
    have ha := account_run hrun
    rw [tally_concat, List.countP_append, List.countP_singleton, ih]
    cases hlast with
    | @finishes j news _ hfinished =>
      obtain ⟨l, hl, hcases⟩ := finish_eq_some hfinished
      have hdone := ha.isDone j l hl
      rw [Tally.next_finishes]
      by_cases hj : j = i
      · subst hj
        rcases hcases with ⟨hl', rfl, -⟩ | ⟨hl', rfl, -⟩ <;> simp [Tally.finish, ← hdone, hl']
      · simp [Tally.finish, hj]
    | _ => simp [Tally.next, Act.isFinishOf]

/-! ## What is delivered -/

/-- Signals **deliver once**, whatever has been done on a board. -/
structure Delivers (acts : List Act) (b : Board) : Prop where
  /-- A latch is finished once. -/
  news : ∀ i, acts.countP (· = .finishes i true) = if (tally acts).finished i then 1 else 0
  /-- Every registration has a signal of its own. -/
  distinct : ((tally acts).registered.filterMap (·.2.signal)).Nodup
  /-- A signal delivers one notice, taken or still there, once its latch has been finished. -/
  once : ∀ e ∈ (tally acts).registered, ∀ s, e.2.signal = some s →
    (tally acts).taken s + (if b.observers.signal s = .raised then 1 else 0) =
      if (tally acts).finished e.1 then 1 else 0
  /-- It is silent as long as its latch is neither finished nor lost. -/
  silent : ∀ e ∈ (tally acts).registered, ∀ s, e.2.signal = some s →
    (b.observers.signal s = .silent ↔
      (tally acts).finished e.1 = false ∧ (tally acts).dropped e.1 = false)
  /-- If the latch is lost before it was finished, the signal tells that, and whatever happens later
  it never delivers. -/
  lost : ∀ e ∈ (tally acts).registered, ∀ s, e.2.signal = some s →
    (tally acts).dropped e.1 = true → (tally acts).finished e.1 = false →
    ∀ more b', Run Step b more b' →
      b'.observers.signal s = .closed ∧ (tally (acts ++ more)).taken s = 0
  /-- A wait for any of some signals may return exactly if one of them is not silent. -/
  returns : ∀ signals, (∃ position after, b.WaitAny signals position after) ↔
    ∃ s ∈ signals, b.observers.signal s ≠ .silent
  /-- It returns at such a signal, which has nothing more to tell then, and leaves all else alone.
  -/
  takes : ∀ signals position after, b.WaitAny signals position after →
    ∃ s, signals[position]? = some s ∧ b.observers.signal s ≠ .silent ∧
      after.observers.signal s = .closed ∧
      (∀ s', s' ≠ s → after.observers.signal s' = b.observers.signal s') ∧
      after.latches = b.latches ∧ after.observers.pending = b.observers.pending
  /-- What a wait is answered says which returns there are. -/
  answers : ∀ signals,
    (b.waitAny signals).1.Fits b signals.length (b.WaitAny signals) (b.waitAny signals).2
  answersForAny : ∀ t latches,
    (b.waitForAny t latches).1.Fits b (b.present latches).length (b.WaitForAny t latches)
      (b.waitForAny t latches).2
  /-- A wait for any of some latches may return at once exactly if one of them has been finished,
  and leaves all signals alone that there are. -/
  forAny : ∀ t latches, t < b.observers.pending.length →
    ((∃ position after, b.WaitForAny t latches position after) ↔
      ∃ i ∈ b.present latches, (tally acts).finished i = true) ∧
    ∀ position after, b.WaitForAny t latches position after →
      (∃ i, (b.present latches)[position]? = some i ∧ (tally acts).finished i = true) ∧
      ∀ s, after.observers.signal s = b.observers.signal s

/-- **Completion signals fire exactly once.** Whatever is done on a board of any number of latches
and trackers, in any order. -/
theorem delivers_run (hrun : Run Step (start n m) acts b) : Delivers acts b := by
  have ha := account_run hrun
  refine {
    news := news_run hrun
    distinct := ha.given ▸ List.nodup_range
    once := fun e he s hs => ?once
    silent := fun e he s hs => ?silent
    lost := fun e he s hs hdropped hunfinished more b' hmore => ?lost
    returns := fun signals => exists_waitAny_iff
    takes := fun signals position after h => h.takes
    answers := fits_waitAny b
    answersForAny := fits_waitForAny b
    forAny := fun t latches ht => ⟨exists_waitForAny_iff ha latches, ?forAny⟩ }
  case once | silent =>
    have hstands := ha.stands e he s hs
    revert hstands
    cases (tally acts).finished e.1 <;> cases (tally acts).dropped e.1 <;>
      simp +contextual [Signal.Stands, or_imp]
  case lost =>
    -- What was lost stays lost, so the account of any later board says so too.
    obtain ⟨hdropped', hunfinished'⟩ := lost_run hrun hmore hdropped hunfinished
    have hstands := (account_run (hrun.trans hmore)).stands e (registered_subset_append _ _ he) s hs
    rw [hdropped', hunfinished'] at hstands
    exact hstands
  case forAny =>
    rintro position _ ⟨⟨i, l, hi, hl, hdone⟩, rfl⟩
    have hpresent : ∀ i ∈ b.present latches, (b.latch? i).isSome = true :=
      fun i hi => (List.mem_filter.mp hi).2
    refine ⟨⟨i, hi, ha.isDone i l hl ▸ hdone⟩, fun s => ?_⟩
    refine signal_of_run_observeUnheard (run_observeUnheard hpresent ht) (fun e he => ?_) s
    obtain ⟨j, -, rfl⟩ := List.mem_map.mp he
    rfl

/-! Two latches with three signals, of which one is lost. -/

/-- One latch is finished twice between a registration before and one after; the other is dropped.
-/
def lossyActs : List Act :=
  [.observes 0 0 0, .observesAll 0 [1] [1], .polls 0 .silent, .finishes 0 true, .observes 0 0 2,
    .finishes 0 false, .waits [1, 2] 1 .raised, .drops 1, .waits [1] 0 .closed, .polls 0 .raised]

theorem delivers_lossyActs :
    ∃ b, Run Step (start 2 1) lossyActs b ∧ Delivers lossyActs b ∧
      (tally lossyActs).taken 0 = 1 ∧ (tally lossyActs).taken 1 = 0 ∧ (tally lossyActs).taken 2 = 1 := by
  obtain ⟨b, hrun⟩ : ∃ b, Run Step (start 2 1) lossyActs b := by
    refine ⟨_, .cons (.observes ?_ rfl) <| .cons (.observesAll [1] ?_) <| .cons (.polls ?_) <|
      .cons (.finishes rfl) <| .cons (.observes ?_ rfl) <| .cons (.finishes rfl) <|
      .cons (@Step.waits _ [1, 2] 1 2 _ ?_ ⟨2, rfl, rfl, rfl⟩ rfl) <| .cons (.drops rfl) <|
      .cons (@Step.waits _ [1] 0 1 _ ?_ ⟨1, rfl, rfl, rfl⟩ rfl) <| .cons (.polls ?_) <| .here _⟩ <;>
    decide
  exact ⟨b, hrun, delivers_run hrun, by decide, by decide, by decide⟩

end Board

end MediaProxy
