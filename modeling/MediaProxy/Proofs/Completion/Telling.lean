import MediaProxy.Proofs.Completion.Notices

/-!
# Everybody is told once

Somebody who waits for the end of some work registers a tracker with its latch, now or when the work
has long been done, and looks at the signal that the registration has given out, now and then
(`Watches`). Whatever the order of all that and of the end itself, each registration is told once
(`Latch.Tells`): its tracker counts it as long as the work is not done and no longer, and its signal
delivers one notice when the work is done, none before and no second one.

What carries this is the account of a latch (`Latch.Accounts`): who is to be told is who has
registered, the signals that were given out are all different, and a signal is closed only by its
one notice.
-/

namespace MediaProxy

/-- What somebody does who **waits for the end** of some work. -/
inductive Watch where
  /-- Registers a tracker and is given a signal. -/
  | registers (tracker : TrackerId) (signal : SignalId)
  /-- Looks at a signal and takes the notice that is there, if there is one. -/
  | looks (signal : SignalId) (found : Signal)
  deriving DecidableEq, Repr

namespace Watch

/-- The registration that is to be told, if this is one. -/
def registration? : Watch → Option Registration
  | .registers t s => some ⟨t, some s⟩
  | .looks .. => none

/-- The signal that is given out, if one is. -/
def given? : Watch → Option SignalId
  | .registers _ s => some s
  | .looks .. => none

/-- The signals that were given out. -/
def given (ws : List Watch) : List SignalId := ws.filterMap given?

/-- How often a tracker was registered. -/
def registered (t : TrackerId) (ws : List Watch) : Nat :=
  (ws.filterMap registration?).countP (·.tracker = t)

/-- How many notices were taken from a signal. -/
def noticed (s : SignalId) (ws : List Watch) : Nat := ws.count (.looks s .raised)

variable (ws : List Watch)

theorem given_concat_registers (t : TrackerId) (s : SignalId) :
    given (ws ++ [.registers t s]) = given ws ++ [s] := by simp [given, given?]

theorem given_concat_looks (s : SignalId) (found : Signal) :
    given (ws ++ [.looks s found]) = given ws := by simp [given, given?]

theorem registered_concat_registers (t t' : TrackerId) (s : SignalId) :
    registered t' (ws ++ [.registers t s]) = registered t' ws + if t = t' then 1 else 0 := by
  by_cases h : t = t' <;> simp [registered, registration?, h]

theorem registered_concat_looks (t : TrackerId) (s : SignalId) (found : Signal) :
    registered t (ws ++ [.looks s found]) = registered t ws := by simp [registered, registration?]

theorem noticed_concat_registers (t : TrackerId) (s s' : SignalId) :
    noticed s' (ws ++ [.registers t s]) = noticed s' ws := by simp [noticed]

theorem noticed_concat_looks (s s' : SignalId) (found : Signal) :
    noticed s' (ws ++ [.looks s found]) =
      noticed s' ws + if s = s' ∧ found = .raised then 1 else 0 := by
  by_cases h : s = s' ∧ found = .raised
  · obtain ⟨rfl, rfl⟩ := h
    simp [noticed]
  · have hne : Watch.looks s found ≠ .looks s' .raised := by simpa using h
    simp [noticed, h, hne]

/-- The signals that were given out are those that a registration got. -/
theorem mem_given_iff {s : SignalId} : s ∈ given ws ↔ ∃ t, .registers t s ∈ ws := by
  rw [given, List.mem_filterMap]
  constructor
  · rintro ⟨w, hw, hs⟩
    cases w with
    | registers t s' =>
      obtain rfl := Option.some.inj hs
      exact ⟨t, hw⟩
    | looks => cases hs
  · rintro ⟨t, ht⟩
    exact ⟨_, ht, rfl⟩

end Watch

/-- Somebody waits for the end of the work of a **latch**. -/
inductive Watches (l : Latch) (o : Observers) : Watch → Latch → Observers → Prop where
  | registers {t : TrackerId} (ht : t < o.pending.length) :
      Watches l o (.registers t (l.observe t o).1) (l.observe t o).2.1 (l.observe t o).2.2
  | looks (s : SignalId) : Watches l o (.looks s (o.take s).1) l (o.take s).2

/-! ## Signals -/

namespace Observers

variable (o : Observers) (s s' : SignalId)

/-- Raising a signal raises it if it is silent, and leaves all others as they are. -/
theorem signal_raise :
    (o.raise s).signal s' = if s' = s ∧ o.signal s' = .silent then .raised else o.signal s' := by
  by_cases h : s' = s
  · subst h
    cases hs : o.signals[s']? with
    | none => simp [signal_eq, raise, hs]
    | some x => cases x <;> simp [signal_eq, raise, hs]
  · simp [signal_eq, raise, h, Ne.symm h]

/-- Abandoning a signal closes it if it is silent, and leaves all others as they are. -/
theorem signal_abandon :
    (o.abandon s).signal s' = if s' = s ∧ o.signal s' = .silent then .closed else o.signal s' := by
  by_cases h : s' = s
  · subst h
    cases hs : o.signals[s']? with
    | none => simp [signal_eq, abandon, hs]
    | some x => cases x <;> simp [signal_eq, abandon, hs]
  · simp [signal_eq, abandon, h, Ne.symm h]

theorem pendingOf_abandon (t : TrackerId) : (o.abandon s).pendingOf t = o.pendingOf t := rfl

theorem length_signals_abandon : (o.abandon s).signals.length = o.signals.length :=
  List.length_modify ..

/-- To take a notice is to close the signal, if it was raised. -/
theorem signal_take :
    (o.take s).2.signal s' = if s' = s ∧ o.signal s' = .raised then .closed else o.signal s' := by
  by_cases h : s' = s
  · subst h
    cases hs : o.signals[s']? with
    | none => simp [signal_eq, take, hs]
    | some x => cases x <;> simp [signal_eq, take, hs]
  · simp [signal_eq, take, h, Ne.symm h]

/-- A signal that was never given out is closed. -/
theorem signal_of_le (h : o.signals.length ≤ s) : o.signal s = .closed := by
  rw [signal_eq, List.getElem?_eq_none h, Option.getD_none]

theorem pendingOf_take (t : TrackerId) : (o.take s).2.pendingOf t = o.pendingOf t := rfl

theorem length_signals_take : (o.take s).2.signals.length = o.signals.length :=
  List.length_modify ..

theorem signal_newSignal (x : Signal) :
    (o.newSignal x).2.signal s = if s = o.signals.length then x else o.signal s := by
  rcases Nat.lt_trichotomy s o.signals.length with h | rfl | h
  · rw [signal_newSignal_of_lt o s x h, if_neg (Nat.ne_of_lt h)]
  · rw [signal_newSignal_self, if_pos rfl]
  · have hbeyond : (o.newSignal x).2.signals.length ≤ s := by
      rw [length_signals_newSignal]
      exact h
    rw [signal_of_le _ _ hbeyond, signal_of_le _ _ (Nat.le_of_lt h), if_neg (Nat.ne_of_gt h)]

end Observers

namespace Latch

/-- Notifying a registration raises its signal, if that is silent. -/
theorem signal_notify (o : Observers) (g : Registration) (s : SignalId) :
    (notify o g).signal s =
      if g.signal = some s ∧ o.signal s = .silent then .raised else o.signal s := by
  cases hs : g.signal with
  | none => simp [notify, hs]
  | some s' => simp [notify, hs, Observers.signal_raise, eq_comm]

/-- Exactly the silent signals of the registrations are raised. -/
theorem signal_foldl_notify (o : Observers) (gs : List Registration) (s : SignalId) :
    (gs.foldl notify o).signal s =
      if (∃ g ∈ gs, g.signal = some s) ∧ o.signal s = .silent then .raised else o.signal s := by
  induction gs generalizing o with
  | nil => simp
  | cons g gs ih =>
    rw [List.foldl_cons, ih, signal_notify]
    by_cases hsilent : o.signal s = .silent
    · by_cases hg : g.signal = some s <;> simp [hsilent, hg]
    · simp [hsilent]

/-! ## The loss of a latch -/

/-- Abandoning several signals closes those of them that are silent. -/
theorem signal_foldl_abandon (o : Observers) (ss : List SignalId) (s : SignalId) :
    (ss.foldl Observers.abandon o).signal s =
      if s ∈ ss ∧ o.signal s = .silent then .closed else o.signal s := by
  induction ss generalizing o with
  | nil => simp
  | cons s' ss ih =>
    rw [List.foldl_cons, ih, Observers.signal_abandon]
    by_cases hsilent : o.signal s = .silent
    · by_cases hs : s = s'
      · subst hs
        simp [hsilent]
      · simp [hsilent, hs]
    · simp [hsilent]

/-- Exactly the silent signals of the registrations are closed. -/
theorem signal_drop (l : Latch) (o : Observers) (s : SignalId) :
    (l.drop o).signal s =
      if (∃ g ∈ l.registrations, g.signal = some s) ∧ o.signal s = .silent then .closed
      else o.signal s := by
  simp only [drop, signal_foldl_abandon, List.mem_filterMap]

/-- No tracker learns of it. -/
theorem pendingOf_drop (l : Latch) (o : Observers) (t : TrackerId) :
    (l.drop o).pendingOf t = o.pendingOf t := by
  rw [drop]
  generalize l.registrations.filterMap Registration.signal = ss
  induction ss generalizing o with
  | nil => rfl
  | cons s ss ih => rw [List.foldl_cons, ih, Observers.pendingOf_abandon]

theorem length_pending_drop (l : Latch) (o : Observers) :
    (l.drop o).pending.length = o.pending.length := by
  rw [drop]
  generalize l.registrations.filterMap Registration.signal = ss
  induction ss generalizing o with
  | nil => rfl
  | cons s ss ih =>
    rw [List.foldl_cons, ih]
    rfl

theorem length_signals_drop (l : Latch) (o : Observers) :
    (l.drop o).signals.length = o.signals.length := by
  rw [drop]
  generalize l.registrations.filterMap Registration.signal = ss
  induction ss generalizing o with
  | nil => rfl
  | cons s ss ih => rw [List.foldl_cons, ih, Observers.length_signals_abandon]

/-! ## The account of a latch -/

/-- A latch **tells everybody once**, whoever has watched it since the observers were as `o₀`. -/
structure Tells (o₀ : Observers) (ws : List Watch) (l : Latch) (o : Observers) : Prop where
  /-- A tracker counts its registrations until the work is done, and then as many as before. -/
  trackers : ∀ t, o.pendingOf t = o₀.pendingOf t + if l.isDone then 0 else Watch.registered t ws
  /-- Every registration has a signal of its own. -/
  distinct : (Watch.given ws).Nodup
  /-- A signal that was given out delivers one notice, taken or still there, once the work is done.
  -/
  signals : ∀ s ∈ Watch.given ws,
    Watch.noticed s ws + (if o.signal s = .raised then 1 else 0) = if l.isDone then 1 else 0

/-- What is true of a latch that has been **watched** since the observers were as `o₀`. -/
structure Accounts (o₀ : Observers) (ws : List Watch) (l : Latch) (o : Observers) : Prop where
  trackers : ∀ t, o.pendingOf t = o₀.pendingOf t + if l.isDone then 0 else Watch.registered t ws
  registrations : l.registrations = if l.isDone then [] else ws.filterMap Watch.registration?
  distinct : (Watch.given ws).Nodup
  given_lt : ∀ s ∈ Watch.given ws, s < o.signals.length
  unnoticed : ∀ s, o.signals.length ≤ s → Watch.noticed s ws = 0
  silent : l.isDone = false → ∀ s ∈ Watch.given ws, o.signal s = .silent ∧ Watch.noticed s ws = 0
  told : l.isDone = true → ∀ s ∈ Watch.given ws,
    o.signal s = .raised ∧ Watch.noticed s ws = 0 ∨ o.signal s = .closed ∧ Watch.noticed s ws = 1

variable {o₀ o o' : Observers} {ws : List Watch} {w : Watch} {l l' : Latch}

/-- Observers that accord with a history tell what it says. -/
theorem Accounts.tells (h : Accounts o₀ ws l o) : Tells o₀ ws l o := by
  refine ⟨h.trackers, h.distinct, fun s hs => ?_⟩
  cases hdone : l.isDone with
  | false =>
    obtain ⟨hsilent, hnone⟩ := h.silent hdone s hs
    simp [hsilent, hnone]
  | true =>
    rcases h.told hdone s hs with ⟨hsignal, hcount⟩ | ⟨hsignal, hcount⟩ <;> simp [hsignal, hcount]

/-- Before anything has happened the observers accord with the empty history. -/
theorem accounts_fresh (o : Observers) : Accounts o [] fresh o where
  trackers t := by simp [Watch.registered]
  registrations := rfl
  distinct := List.nodup_nil
  given_lt := nofun
  unnoticed _ _ := rfl
  silent _ := nofun
  told := nofun

/-! What a registration changes. -/

section Observe

variable (l : Latch) (t t' : TrackerId) (o : Observers) (s : SignalId)

/-- Observing a latch that is done gives a raised signal and leaves the tracker as it was; observing
another one gives a silent signal that is registered. -/
theorem observe_eq :
    l.observe t o =
      if l.isDone then (o.signals.length, l, (((o.add t).done t).newSignal .raised).2)
      else (o.signals.length, ⟨false, l.registrations ++ [⟨t, some o.signals.length⟩]⟩,
        ((o.add t).newSignal .silent).2) := by
  rw [observe]
  cases hdone : l.isDone <;> simp [Observers.newSignal]

theorem signal_fst_observe : (l.observe t o).1 = o.signals.length := by
  rw [observe_eq]
  split <;> rfl

/-- Observing does not finish a latch. -/
theorem isDone_observe : (l.observe t o).2.1.isDone = l.isDone := by
  rw [observe_eq]
  cases hdone : l.isDone <;> simp [hdone]

/-- A latch that is done registers nobody. -/
theorem registrations_observe :
    (l.observe t o).2.1.registrations =
      if l.isDone then l.registrations else l.registrations ++ [⟨t, some o.signals.length⟩] := by
  rw [observe_eq]
  split <;> rfl

theorem length_signals_observe : (l.observe t o).2.2.signals.length = o.signals.length + 1 := by
  rw [observe_eq]
  split <;> simp

/-- The new signal is raised at once exactly if the latch is done. -/
theorem signal_observe :
    (l.observe t o).2.2.signal s =
      if s = o.signals.length then (if l.isDone then .raised else .silent) else o.signal s := by
  rw [observe_eq]
  cases l.isDone with
  | true => exact Observers.signal_newSignal ((o.add t).done t) s .raised
  | false => exact Observers.signal_newSignal (o.add t) s .silent

/-- A registration with a latch that is done changes no count: it goes up and down again. -/
theorem pendingOf_observe (ht : t < o.pending.length) :
    (l.observe t o).2.2.pendingOf t' =
      o.pendingOf t' + if l.isDone then 0 else if t = t' then 1 else 0 := by
  rw [observe_eq]
  split
  · rw [Observers.pendingOf_newSignal, Observers.pendingOf_done_add o t t' ht, Nat.add_zero]
  · rw [Observers.pendingOf_newSignal, Observers.pendingOf_add o t t' ht]

theorem length_pending_observe : (l.observe t o).2.2.pending.length = o.pending.length := by
  rw [observe_eq]
  split <;> simp

end Observe

/-- An observation keeps the observers in accord with the history. -/
theorem Accounts.register (h : Accounts o₀ ws l o) {t : TrackerId} (ht : t < o.pending.length) :
    Accounts o₀ (ws ++ [.registers t (l.observe t o).1]) (l.observe t o).2.1 (l.observe t o).2.2 := by
  -- The signal that is given out is a new one, so nothing was noticed of it.
  have hnew : Watch.noticed o.signals.length ws = 0 := h.unnoticed _ (Nat.le_refl _)
  have hgiven : ∀ s ∈ Watch.given (ws ++ [.registers t o.signals.length]),
      s = o.signals.length ∨ s ∈ Watch.given ws ∧ s ≠ o.signals.length := by
    intro s hs
    rw [Watch.given_concat_registers, List.mem_append, List.mem_singleton] at hs
    exact hs.symm.imp_right fun hs => ⟨hs, Nat.ne_of_lt (h.given_lt s hs)⟩
  rw [signal_fst_observe]
  refine {
    trackers := fun t' => ?trackers
    registrations := ?registrations
    distinct := ?distinct
    given_lt := fun s hs => ?given_lt
    unnoticed := fun s hs => ?unnoticed
    silent := fun hnot s hs => ?silent
    told := fun hdone s hs => ?told }
  case trackers =>
    rw [pendingOf_observe l t t' o ht, isDone_observe, h.trackers t',
      Watch.registered_concat_registers]
    split <;> omega
  case registrations =>
    rw [registrations_observe, isDone_observe, h.registrations]
    split
    · rfl
    · simp [Watch.registration?]
  case distinct =>
    rw [Watch.given_concat_registers]
    refine List.nodup_append.mpr ⟨h.distinct, List.pairwise_singleton _ _, fun s hs s' hs' => ?_⟩
    rw [List.mem_singleton.mp hs']
    exact Nat.ne_of_lt (h.given_lt s hs)
  case given_lt =>
    rw [length_signals_observe, Nat.lt_succ_iff]
    rcases hgiven s hs with rfl | ⟨hs, -⟩
    · exact Nat.le_refl _
    · exact Nat.le_of_lt (h.given_lt s hs)
  case unnoticed =>
    rw [length_signals_observe] at hs
    rw [Watch.noticed_concat_registers]
    exact h.unnoticed s (Nat.le_of_succ_le hs)
  case silent =>
    rw [isDone_observe] at hnot
    rw [Watch.noticed_concat_registers, signal_observe]
    rcases hgiven s hs with rfl | ⟨hs, hne⟩
    · simp [hnot, hnew]
    · simpa [hne] using h.silent hnot s hs
  case told =>
    rw [isDone_observe] at hdone
    rw [Watch.noticed_concat_registers, signal_observe]
    rcases hgiven s hs with rfl | ⟨hs, hne⟩
    · simp [hdone, hnew]
    · simpa [hne] using h.told hdone s hs

/-- A look at a signal keeps the observers in accord with the history. -/
theorem Accounts.look (h : Accounts o₀ ws l o) (s : SignalId) :
    Accounts o₀ (ws ++ [.looks s (o.take s).1]) l (o.take s).2 := by
  have hgiven : Watch.given (ws ++ [.looks s (o.take s).1]) = Watch.given ws :=
    Watch.given_concat_looks ..
  refine {
    trackers := fun t => ?trackers
    registrations := ?registrations
    distinct := hgiven ▸ h.distinct
    given_lt := fun s' hs' => ?given_lt
    unnoticed := fun s' hs' => ?unnoticed
    silent := fun hnot s' hs' => ?silent
    told := fun hdone s' hs' => ?told }
  case trackers =>
    rw [Watch.registered_concat_looks, Observers.pendingOf_take]
    exact h.trackers t
  case registrations =>
    rw [h.registrations, List.filterMap_append]
    simp [Watch.registration?, List.filterMap_cons]
  case given_lt =>
    rw [Observers.length_signals_take]
    exact h.given_lt s' (hgiven ▸ hs')
  case unnoticed =>
    rw [Observers.length_signals_take] at hs'
    have hclosed := o.signal_of_le s' hs'
    rw [Watch.noticed_concat_looks, h.unnoticed s' hs', if_neg]
    rintro ⟨rfl, hraised⟩
    exact absurd (hclosed.symm.trans hraised) (by decide)
  case silent =>
    obtain ⟨hsilent, hnone⟩ := h.silent hnot s' (hgiven ▸ hs')
    have hnothing : ¬(s = s' ∧ (o.take s).1 = .raised) := by
      rintro ⟨rfl, hraised⟩
      exact absurd (hsilent.symm.trans hraised) (by decide)
    rw [Watch.noticed_concat_looks, if_neg hnothing, Observers.signal_take, hsilent]
    simp [hnone]
  case told =>
    rw [Watch.noticed_concat_looks, Observers.signal_take]
    rcases h.told hdone s' (hgiven ▸ hs') with ⟨hsignal, hcount⟩ | ⟨hsignal, hcount⟩
    · by_cases hs : s = s'
      · subst hs
        simp [Observers.take, hsignal, hcount]
      · simp [hsignal, hcount, hs, Ne.symm hs]
    · have hnothing : ¬(s = s' ∧ (o.take s).1 = .raised) := by
        rintro ⟨rfl, hraised⟩
        exact absurd (hsignal.symm.trans hraised) (by decide)
      simp [hnothing, hsignal, hcount]

/-- Whatever a watcher does keeps the observers in accord with the history. -/
theorem Accounts.watch (h : Accounts o₀ ws l o) (hw : Watches l o w l' o') :
    Accounts o₀ (ws ++ [w]) l' o' := by
  cases hw with
  | registers ht => exact h.register ht
  | looks s => exact h.look s

/-- No watcher finishes a latch. -/
theorem isDone_of_watches (h : Watches l o w l' o') : l'.isDone = l.isDone := by
  cases h with
  | registers => exact isDone_observe ..
  | looks => rfl

/-- A latch is done once it is finished. -/
theorem isDone_finish (l : Latch) (o : Observers) : (l.finish o).2.1.isDone = true := by
  unfold finish
  split
  next h => exact h
  next => rfl

/-- The end of the work tells everybody who is still to be told. -/
theorem Accounts.finish (h : Accounts o₀ ws l o) :
    Accounts o₀ ws (l.finish o).2.1 (l.finish o).2.2 := by
  rw [Latch.finish]
  cases hdone : l.isDone with
  | true => exact h
  | false =>
    have hregistrations := h.registrations
    simp only [hdone, if_neg Bool.false_ne_true] at hregistrations ⊢
    refine {
      trackers := fun t => ?trackers
      registrations := rfl
      distinct := h.distinct
      given_lt := fun s hs => ?given_lt
      unnoticed := fun s hs => ?unnoticed
      silent := nofun
      told := fun _ s hs => ?told }
    case trackers =>
      have htrackers := h.trackers t
      simp only [hdone, if_neg Bool.false_ne_true] at htrackers
      rw [pendingOf_foldl_notify, htrackers, hregistrations, ← Watch.registered, Nat.add_sub_cancel]
      rfl
    case given_lt =>
      rw [length_signals_foldl_notify]
      exact h.given_lt s hs
    case unnoticed =>
      rw [length_signals_foldl_notify] at hs
      exact h.unnoticed s hs
    case told =>
      obtain ⟨hsilent, hnone⟩ := h.silent hdone s hs
      obtain ⟨t, ht⟩ := (Watch.mem_given_iff ws).mp hs
      have htold : ∃ g ∈ l.registrations, g.signal = some s :=
        ⟨⟨t, some s⟩, hregistrations ▸ List.mem_filterMap.mpr ⟨_, ht, rfl⟩, rfl⟩
      rw [signal_foldl_notify, if_pos ⟨htold, hsilent⟩]
      exact .inl ⟨rfl, hnone⟩

end Latch

end MediaProxy
