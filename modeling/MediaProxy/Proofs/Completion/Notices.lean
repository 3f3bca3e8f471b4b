import MediaProxy.Completion.Latch

/-!
# What a completion changes

Trackers are read through `Observers.pendingOf` and signals through `Signal.isReady`. This module
says what each operation on observers does to the two, so that no later proof looks into their
lists.

The last group is about the completion of a latch (`Latch.finish`): a tracker goes down by the
number of its registrations, and exactly the signals of the registrations become ready.
-/

namespace MediaProxy

namespace Observers

variable (o : Observers) (t t' : TrackerId) (s s' : SignalId)

/-! ## Trackers -/

theorem pendingOf_eq : o.pendingOf t = (o.pending[t]?).getD 0 := List.getD_eq_getElem?_getD

/-- Adding to a tracker makes it count one more. -/
theorem pendingOf_add_self (h : t < o.pending.length) :
    (o.add t).pendingOf t = o.pendingOf t + 1 := by
  simp [pendingOf_eq, add, h]

/-- Adding to a tracker changes no other one. -/
theorem pendingOf_add_of_ne (h : t' ≠ t) : (o.add t).pendingOf t' = o.pendingOf t' := by
  simp [pendingOf_eq, add, h.symm]

@[simp] theorem pendingOf_done :
    (o.done t).pendingOf t' = if t' = t then o.pendingOf t' - 1 else o.pendingOf t' := by
  by_cases h : t' = t
  · subst h
    cases hp : o.pending[t']? <;> simp [pendingOf_eq, done, hp]
  · simp [pendingOf_eq, done, h, Ne.symm h]

theorem pendingOf_add (h : t < o.pending.length) :
    (o.add t).pendingOf t' = o.pendingOf t' + if t = t' then 1 else 0 := by
  by_cases heq : t = t'
  · subst heq
    rw [pendingOf_add_self o t h, if_pos rfl]
  · rw [pendingOf_add_of_ne o t t' (Ne.symm heq), if_neg heq, Nat.add_zero]

/-- What is counted and done at once is not counted. -/
theorem pendingOf_done_add (h : t < o.pending.length) :
    ((o.add t).done t).pendingOf t' = o.pendingOf t' := by
  rw [pendingOf_done, pendingOf_add o t t' h]
  split
  next heq => simp [heq]
  next hne => simp [Ne.symm hne]

@[simp] theorem pendingOf_raise : (o.raise s).pendingOf t = o.pendingOf t := rfl

@[simp] theorem pendingOf_newSignal (x : Signal) :
    (o.newSignal x).2.pendingOf t = o.pendingOf t := rfl

theorem pendingOf_newTracker : o.newTracker.2.pendingOf t = o.pendingOf t := by
  rw [pendingOf_eq, pendingOf_eq, newTracker, List.getElem?_append]
  split
  · rfl
  next h =>
    rw [List.getElem?_eq_none (Nat.le_of_not_lt h)]
    cases t - o.pending.length <;> simp

@[simp] theorem length_pending_add : (o.add t).pending.length = o.pending.length :=
  List.length_modify ..

@[simp] theorem length_pending_done : (o.done t).pending.length = o.pending.length :=
  List.length_modify ..

@[simp] theorem length_pending_raise : (o.raise s).pending.length = o.pending.length := rfl

@[simp] theorem length_pending_newSignal (x : Signal) :
    (o.newSignal x).2.pending.length = o.pending.length := rfl

@[simp] theorem length_pending_newTracker : o.newTracker.2.pending.length = o.pending.length + 1 := by
  simp [newTracker]

/-! ## Signals -/

theorem signal_eq : o.signal s = (o.signals[s]?).getD .closed := List.getD_eq_getElem?_getD

@[simp] theorem signal_add : (o.add t).signal s = o.signal s := rfl

@[simp] theorem signal_done : (o.done t).signal s = o.signal s := rfl

@[simp] theorem signal_newTracker : o.newTracker.2.signal s = o.signal s := rfl

/-- A signal that was never given out counts as ready, so no bound on the position is needed. -/
@[simp] theorem isReady_raise :
    ((o.raise s).signal s').isReady = ((o.signal s').isReady || decide (s' = s)) := by
  by_cases h : s' = s
  · subst h
    cases hs : o.signals[s']? with
    | none => simp [signal_eq, raise, hs, Signal.isReady]
    | some x => cases x <;> simp [signal_eq, raise, hs, Signal.isReady]
  · simp [signal_eq, raise, h, Ne.symm h]

/-- A new signal leaves those that were given out as they are. -/
theorem signal_newSignal_of_lt (x : Signal) (h : s < o.signals.length) :
    (o.newSignal x).2.signal s = o.signal s := by
  simp [signal_eq, newSignal, List.getElem?_append_left h]

/-- A new signal has the next number. -/
theorem signal_newSignal_self (x : Signal) : (o.newSignal x).2.signal o.signals.length = x := by
  simp [signal_eq, newSignal]

@[simp] theorem length_signals_add : (o.add t).signals.length = o.signals.length := rfl

@[simp] theorem length_signals_done : (o.done t).signals.length = o.signals.length := rfl

@[simp] theorem length_signals_raise : (o.raise s).signals.length = o.signals.length :=
  List.length_modify ..

@[simp] theorem length_signals_newSignal (x : Signal) :
    (o.newSignal x).2.signals.length = o.signals.length + 1 := by
  simp [newSignal]

@[simp] theorem length_signals_newTracker : o.newTracker.2.signals.length = o.signals.length := rfl

end Observers

/-! ## Completion -/

namespace Latch

variable (o : Observers)

/-- Notifying a registration takes one off its tracker. -/
theorem pendingOf_notify (g : Registration) (t : TrackerId) :
    (notify o g).pendingOf t = if t = g.tracker then o.pendingOf t - 1 else o.pendingOf t := by
  cases hs : g.signal <;> simp [notify, hs]

/-- Notifying a registration makes its signal ready, if it has one, and no other. -/
theorem isReady_notify (g : Registration) (s : SignalId) :
    ((notify o g).signal s).isReady = ((o.signal s).isReady || decide (g.signal = some s)) := by
  cases hs : g.signal with
  | none => simp [notify, hs]
  | some s' => simp [notify, hs, eq_comm]

theorem length_pending_notify (g : Registration) :
    (notify o g).pending.length = o.pending.length := by
  cases hs : g.signal <;> simp [notify, hs]

theorem length_signals_notify (g : Registration) :
    (notify o g).signals.length = o.signals.length := by
  cases hs : g.signal <;> simp [notify, hs]

/-- Each tracker goes down by the number of its registrations. -/
theorem pendingOf_foldl_notify (t : TrackerId) (gs : List Registration) :
    (gs.foldl notify o).pendingOf t = o.pendingOf t - gs.countP (·.tracker = t) := by
  induction gs generalizing o with
  | nil => rfl
  | cons g gs ih =>
    rw [List.foldl_cons, ih, pendingOf_notify]
    by_cases h : t = g.tracker
    · subst h
      simp only [if_pos, List.countP_cons_of_pos, decide_true]
      omega
    · rw [if_neg h, List.countP_cons_of_neg (by simpa using Ne.symm h)]

/-- Exactly the signals of the registrations become ready. -/
theorem isReady_foldl_notify (s : SignalId) (gs : List Registration) :
    ((gs.foldl notify o).signal s).isReady =
      ((o.signal s).isReady || gs.any fun g => decide (g.signal = some s)) := by
  induction gs generalizing o with
  | nil => simp
  | cons g gs ih => rw [List.foldl_cons, ih, isReady_notify, List.any_cons, Bool.or_assoc]

@[simp] theorem length_pending_foldl_notify (gs : List Registration) :
    (gs.foldl notify o).pending.length = o.pending.length := by
  induction gs generalizing o with
  | nil => rfl
  | cons g gs ih => rw [List.foldl_cons, ih, length_pending_notify]

@[simp] theorem length_signals_foldl_notify (gs : List Registration) :
    (gs.foldl notify o).signals.length = o.signals.length := by
  induction gs generalizing o with
  | nil => rfl
  | cons g gs ih => rw [List.foldl_cons, ih, length_signals_notify]

end Latch

end MediaProxy
