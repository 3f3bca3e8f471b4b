import MediaProxy.Proofs.Registry.Soundness

/-!
# The end of an entry, step by step

What the two steps of an entry's end change. Asking workers to stop does what a deed does, so
`trigger` and `conclude` are deeds with a change of stage before them or behind them, and keep a
registry sound. Nothing but its own step changes the stage of an entry.

`settle` takes steps that are due, in an order of its own (`settle_induction`), and when cleanups
leave the entries alone it comes to a registry where none is due (`settled_settle`): each step
brings an entry nearer to its end, and there are no more than two for each.
-/

namespace MediaProxy

/-- How many steps there are before an entry at a stage. -/
def Stage.toGo : Stage → Nat
  | .armed => 2
  | .stopping => 1
  | .concluded _ => 0

/-- A contract whose cleanups leave the entries alone. -/
def Contract.Quiet {κ σ : Type} (c : Contract κ σ) : Prop :=
  ∀ n r, (c.cleanup n r).2.entries = r.entries

namespace Registry

variable {κ σ : Type} {c : Contract κ σ} {r r' : Registry κ σ} {w : WorkerId} {e e' : EntryId}
  {entry : Entry κ} {stage : Stage}

/-! ## Stages -/

@[simp] theorem getElem?_setStage : (r.setStage e stage).entries[e']? =
    (r.entries[e']?).map fun entry => if e = e' then { entry with stage := stage } else entry := by
  by_cases h : e = e'
  · simp [setStage, h]
  · simp [setStage, h]

@[simp] theorem length_setStage : (r.setStage e stage).entries.length = r.entries.length :=
  List.length_modify ..

/-- A gate has been triggered exactly if its entry is armed no more. -/
theorem isTriggered_gate_iff (stage : Stage) : stage.gate.isTriggered = true ↔ stage ≠ .armed := by
  cases stage <;> simp [Stage.gate, Gate.isTriggered]

/-- A gate has fired exactly if its entry is concluded. -/
theorem isFired_gate_iff (stage : Stage) :
    stage.gate.isFired = true ↔ ∃ body, stage = .concluded body := by
  cases stage <;> simp [Stage.gate, Gate.isFired]

/-- Up to stages the entries are the same. -/
theorem mem_setStage (h : entry ∈ (r.setStage e stage).entries) :
    ∃ old ∈ r.entries, entry = old ∨ entry = { old with stage := stage } := by
  obtain ⟨i, hi⟩ := List.mem_iff_getElem?.mp h
  rw [getElem?_setStage, Option.map_eq_some_iff] at hi
  obtain ⟨old, hold, rfl⟩ := hi
  refine ⟨old, List.mem_iff_getElem?.mpr ⟨i, hold⟩, ?_⟩
  split
  · exact .inr rfl
  · exact .inl rfl

/-- A registry stays watchful when an entry goes on to another stage. -/
theorem Watchful.setStage (h : Watchful c r) (e : EntryId) (stage : Stage) :
    Watchful c (r.setStage e stage) := by
  refine ⟨h.filed.frame _ _ _, ?_, ?_⟩
  · intro b hb
    rw [length_setStage]
    exact h.bound_lt b hb
  · intro entry hentry
    obtain ⟨old, hold, rfl | rfl⟩ := mem_setStage hentry
    · exact (h.minded _ hold).frame _ _ _
    · exact (h.minded old hold).frame _ _ _

/-- A registry stays watchful when an entry is removed. -/
theorem Watchful.remove [DecidableEq κ] (h : Watchful c r) (e : EntryId) :
    Watchful c (r.remove e) := by
  unfold Registry.remove
  split
  · exact h
  · exact ⟨h.filed.frame _ _ _, fun b hb => h.bound_lt b (List.mem_of_mem_filter hb),
      fun entry hentry => (h.minded entry hentry).frame _ _ _⟩

/-- A registry stays sound when an entry goes on to another stage. -/
theorem Sound.setStage (h : Sound c r) (e : EntryId) (stage : Stage) :
    Sound c (r.setStage e stage) := by
  refine sound_iff.mpr ⟨h.watchful.setStage e stage, ?_⟩
  intro entry hentry
  obtain ⟨old, hold, rfl | rfl⟩ := mem_setStage hentry
  · exact h.distinct _ hold
  · exact h.distinct old hold

/-- A registry stays sound when an entry is removed. -/
theorem Sound.remove [DecidableEq κ] (h : Sound c r) (e : EntryId) : Sound c (r.remove e) := by
  refine sound_iff.mpr ⟨h.watchful.remove e, ?_⟩
  unfold Registry.remove
  split <;> exact h.distinct

/-! ## Asking workers to stop -/

/-- A worker is done when it is asked to stop, if it obeys. -/
theorem halt_eq (c : Contract κ σ) (r : Registry κ σ) (w : WorkerId) : halt c r w =
    if (c.halt w (r.isFinished w) r.world).1
      then ({ r with world := (c.halt w (r.isFinished w) r.world).2 }.finish w).2
      else { r with world := (c.halt w (r.isFinished w) r.world).2 } := rfl

@[simp] theorem entries_halt : (halt c r w).entries = r.entries := by
  rw [halt_eq]
  split <;> simp

@[simp] theorem bound_halt : (halt c r w).bound = r.bound := by
  rw [halt_eq]
  split <;> simp

/-- To ask a worker to stop is a deed that code outside the registry might do. -/
theorem deeds_halt [DecidableEq κ] (hc : c.Faithful) : Deeds c r (halt c r w) := by
  rw [halt_eq]
  have hworld : Deed c r { r with world := (c.halt w (r.isFinished w) r.world).2 } :=
    .change _ fun _ _ => hc.halt ..
  split
  · exact .tail (.single hworld) (.finish w)
  · exact .single hworld

@[simp] theorem entries_foldl_halt (ws : List WorkerId) :
    (ws.foldl (halt c) r).entries = r.entries := by
  induction ws generalizing r with
  | nil => rfl
  | cons w ws ih => rw [List.foldl_cons, ih, entries_halt]

@[simp] theorem bound_foldl_halt (ws : List WorkerId) : (ws.foldl (halt c) r).bound = r.bound := by
  induction ws generalizing r with
  | nil => rfl
  | cons w ws ih => rw [List.foldl_cons, ih, bound_halt]

/-- To ask some workers to stop is to do several such deeds. -/
theorem deeds_foldl_halt [DecidableEq κ] (hc : c.Faithful) (ws : List WorkerId) :
    Deeds c r (ws.foldl (halt c) r) := by
  induction ws generalizing r with
  | nil => exact .refl
  | cons w ws ih => exact (deeds_halt hc).trans ih

/-! ## The two steps -/

/-- An entry that is triggered is stopping, and then its workers are asked to stop. -/
theorem trigger_eq (h : r.entries[e]? = some entry) : trigger c e r =
    (c.workers r.world entry.session).foldl (halt c) (r.setStage e .stopping) := by
  rw [trigger, h]

/-- An entry that is concluded keeps what its cleanup came to. -/
theorem conclude_eq (h : r.entries[e]? = some entry) : conclude c e r =
    (c.cleanup entry.session r).2.setStage e (.concluded (c.cleanup entry.session r).1) := by
  rw [conclude, h]

/-- To trigger an entry changes its stage, and no other entry. -/
theorem entries_trigger (h : r.entries[e]? = some entry) :
    (trigger c e r).entries = (r.setStage e .stopping).entries := by
  rw [trigger_eq h, entries_foldl_halt]

/-- To trigger an entry leaves all keys where they are. -/
theorem bound_trigger : (trigger c e r).bound = r.bound := by
  unfold trigger
  split
  · rfl
  · rw [bound_foldl_halt]
    rfl

/-- A registry stays watchful when an entry is triggered. -/
theorem Watchful.trigger [DecidableEq κ] (h : Watchful c r) (hc : c.Faithful) (e : EntryId) :
    Watchful c (trigger c e r) := by
  cases he : r.entries[e]? with
  | none => rwa [Registry.trigger, he]
  | some entry =>
    rw [trigger_eq he]
    exact (h.setStage e _).acts hc (deeds_foldl_halt hc _).acts

/-- A registry stays watchful when an entry is concluded. -/
theorem Watchful.conclude [DecidableEq κ] (h : Watchful c r) (hc : c.Faithful) (e : EntryId) :
    Watchful c (conclude c e r) := by
  cases he : r.entries[e]? with
  | none => rwa [Registry.conclude, he]
  | some entry =>
    rw [conclude_eq he]
    exact (h.acts hc (hc.cleanup ..)).setStage e _

/-- A registry stays sound when an entry is triggered. -/
theorem Sound.trigger [DecidableEq κ] (h : Sound c r) (hc : c.Steady) (e : EntryId) :
    Sound c (trigger c e r) := by
  cases he : r.entries[e]? with
  | none => rwa [Registry.trigger, he]
  | some entry =>
    rw [trigger_eq he]
    exact (h.setStage e _).deeds hc (deeds_foldl_halt hc.faithful _)

/-- A registry stays sound when an entry is concluded. -/
theorem Sound.conclude [DecidableEq κ] (h : Sound c r) (hc : c.Steady) (e : EntryId) :
    Sound c (conclude c e r) := by
  cases he : r.entries[e]? with
  | none => rwa [Registry.conclude, he]
  | some entry =>
    rw [conclude_eq he]
    exact (h.deeds hc (hc.cleanup ..)).setStage e _

theorem proceed_of_armed (h : r.stage? e = some .armed) : proceed c e r = trigger c e r := by
  rw [proceed, h]

theorem proceed_of_stopping (h : r.stage? e = some .stopping) : proceed c e r = conclude c e r := by
  rw [proceed, h]

/-- A stop that reaches an armed entry triggers it, and runs the cleanup itself. -/
theorem reach_of_armed (h : r.stage? e = some .armed) : reach c e r = (⟨e, true⟩, trigger c e r) := by
  rw [reach, if_pos h]

/-- A stop that reaches any other entry leaves it to whoever has triggered that. -/
theorem reach_of_not_armed (h : r.stage? e ≠ some .armed) : reach c e r = (⟨e, false⟩, r) := by
  rw [reach, if_neg h]

@[simp] theorem entry_reach : (reach c e r).1.entry = e := by
  unfold reach
  split <;> rfl

/-- A stop that reaches an entry makes none. -/
theorem length_reach : (reach c e r).2.entries.length = r.entries.length := by
  unfold reach
  split
  · cases he : r.entries[e]? with
    | none => simp [trigger, he]
    | some entry => rw [entries_trigger he, length_setStage]
  · rfl

/-! ## What is due -/

theorem stage?_of_getElem? (h : r.entries[e]? = some entry) : r.stage? e = some entry.stage := by
  rw [stage?, h, Option.map_some]

/-- An armed entry is due as soon as one of its workers is done. -/
theorem Watchful.isDue_armed_iff (h : Watchful c r) (hentry : entry ∈ r.entries)
    (hs : entry.stage = .armed) :
    r.isDue entry = true ↔ ∃ w ∈ c.workers r.world entry.session, r.isFinished w = true := by
  rw [isDue, hs]
  exact (h.minded entry hentry).any_isReady_iff

/-- A stopping entry is due when all of its workers are done. -/
theorem Watchful.isDue_stopping_iff (h : Watchful c r) (hentry : entry ∈ r.entries)
    (hs : entry.stage = .stopping) :
    r.isDue entry = true ↔ ∀ w ∈ c.workers r.world entry.session, r.isFinished w = true := by
  rw [isDue, hs]
  exact (h.minded entry hentry).tallies.isIdle_iff

/-- An entry that is over is never due. -/
theorem not_isDue_concluded {body : Body} (hs : entry.stage = .concluded body) : r.isDue entry = false := by
  rw [isDue, hs]

/-! ## Settling -/

/-- No entry is due. -/
def Settled (r : Registry κ σ) : Prop := ∀ entry ∈ r.entries, r.isDue entry = false

/-- How many steps there are before some entries. -/
def stepsLeft : List (Entry κ) → Nat
  | [] => 0
  | entry :: rest => entry.stage.toGo + stepsLeft rest

/-- How many steps there are before all entries. -/
def toGo (r : Registry κ σ) : Nat := stepsLeft r.entries

/-- The next step is one of an entry that is due, unless none is. -/
theorem advance_cases (c : Contract κ σ) (r : Registry κ σ) :
    (Settled r ∧ advance c r = r) ∨
    ∃ e entry, r.entries[e]? = some entry ∧ r.isDue entry = true ∧ advance c r = proceed c e r := by
  cases h : r.entries.findIdx? r.isDue with
  | none =>
    refine .inl ⟨?_, by rw [advance, h]⟩
    intro entry hentry
    exact List.findIdx?_eq_none_iff.mp h entry hentry
  | some e =>
    obtain ⟨hlt, hdue, -⟩ := List.findIdx?_eq_some_iff_getElem.mp h
    exact .inr ⟨e, r.entries[e], List.getElem?_eq_getElem hlt, hdue, by rw [advance, h]⟩

/-- What every step that is due keeps, settling keeps. -/
theorem settle_induction {P : Registry κ σ → Prop} (h : P r)
    (step : ∀ r e entry, P r → r.entries[e]? = some entry → r.isDue entry = true →
      P (proceed c e r)) :
    P (settle c r) := by
  have hadvance : ∀ r, P r → P (advance c r) := by
    intro r hr
    rcases advance_cases c r with ⟨-, heq⟩ | ⟨e, entry, he, hdue, heq⟩
    · rwa [heq]
    · rw [heq]
      exact step r e entry hr he hdue
  have hadvances : ∀ n r, P r → P (advances c n r) := by
    intro n
    induction n with
    | zero => exact fun r hr => hr
    | succ n ih => exact fun r hr => ih _ (hadvance r hr)
  exact hadvances _ r h

/-- An entry that goes on has fewer steps before it by just those. -/
theorem stepsLeft_modify (entries : List (Entry κ)) (h : entries[e]? = some entry) (stage : Stage) :
    stepsLeft (entries.modify e fun entry => { entry with stage := stage }) + entry.stage.toGo =
      stepsLeft entries + stage.toGo := by
  induction entries generalizing e with
  | nil => simp at h
  | cons first rest ih =>
    cases e with
    | zero =>
      obtain rfl : first = entry := by simpa using h
      simp only [List.modify_zero_cons, stepsLeft]
      omega
    | succ e =>
      have := ih (by simpa using h)
      simp only [List.modify_succ_cons, stepsLeft]
      omega

/-- A step that is due leaves fewer steps. -/
theorem toGo_proceed_lt (hq : c.Quiet) (he : r.entries[e]? = some entry)
    (hdue : r.isDue entry = true) :
    toGo (proceed c e r) < toGo r := by
  have hstage := stage?_of_getElem? he
  cases hs : entry.stage with
  | armed =>
    have hleft := stepsLeft_modify r.entries he .stopping
    rw [hs] at hleft hstage
    rw [proceed_of_armed hstage, toGo, entries_trigger he, toGo]
    simp only [setStage, Stage.toGo] at hleft ⊢
    omega
  | stopping =>
    have hleft := stepsLeft_modify r.entries he (.concluded (c.cleanup entry.session r).1)
    rw [hs] at hleft hstage
    rw [proceed_of_stopping hstage, conclude_eq he, toGo, setStage, hq, toGo]
    simp only [Stage.toGo] at hleft ⊢
    omega
  | concluded body =>
    rw [not_isDue_concluded hs] at hdue
    exact absurd hdue Bool.false_ne_true

/-- Where no entry is due nothing advances. -/
theorem advances_of_settled (h : Settled r) (n : Nat) : advances c n r = r := by
  induction n with
  | zero => rfl
  | succ n ih =>
    rcases advance_cases c r with ⟨-, heq⟩ | ⟨e, entry, he, hdue, -⟩
    · rw [advances, heq, ih]
    · exact absurd (h entry (List.mem_of_getElem? he)) (by simp [hdue])

/-- As many steps as there are before all entries settle a registry. -/
theorem settled_advances (hq : c.Quiet) (n : Nat) (r : Registry κ σ) (hn : toGo r ≤ n) :
    Settled (advances c n r) := by
  induction n generalizing r with
  | zero =>
    rcases advance_cases c r with ⟨hr, -⟩ | ⟨e, entry, he, hdue, -⟩
    · exact hr
    · have := toGo_proceed_lt hq he hdue
      omega
  | succ n ih =>
    rcases advance_cases c r with ⟨hr, -⟩ | ⟨e, entry, he, hdue, heq⟩
    · rwa [advances_of_settled hr]
    · have := toGo_proceed_lt hq he hdue
      exact ih (advance c r) (by rw [heq]; omega)

/-- There are two steps before every entry at most. -/
theorem toGo_le (r : Registry κ σ) : toGo r ≤ 2 * r.entries.length := by
  unfold toGo
  induction r.entries with
  | nil => exact Nat.le_refl _
  | cons first rest ih =>
    have hfirst : first.stage.toGo ≤ 2 := by cases first.stage <;> simp [Stage.toGo]
    simp only [stepsLeft, List.length_cons]
    omega

/-- After settling no step is due. -/
theorem settled_settle (hq : c.Quiet) (r : Registry κ σ) : Settled (settle c r) :=
  settled_advances hq _ r (toGo_le r)

/-! ## Stops that return -/

/-- Whether a cleanup breaks a stop down: it is one that the stop has run itself. -/
def Stop.breaksAt (s : Stop) (body : Body) : Bool :=
  match s.reply body with
  | .brokeDown _ => true
  | _ => false

/-- A cleanup that comes to something breaks no stop down. -/
theorem breaksAt_returns (s : Stop) (outcome : Outcome) : s.breaksAt (.returns outcome) = false := by
  cases outcome <;> cases hown : s.own <;> simp [Stop.breaksAt, Stop.reply, hown]

/-- A stop whose entry is over returns, and removes the entry unless it breaks down. -/
theorem finishStop_of_concluded [DecidableEq κ] {s : Stop} {body : Body}
    (h : r.stage? s.entry = some (.concluded body)) :
    finishStop s r = some (s.reply body, if s.breaksAt body then r else r.remove s.entry) := by
  rw [finishStop, h]
  cases hr : s.reply body <;> simp [Stop.breaksAt, hr]

/-- A stop returns only when its entry is over. -/
theorem of_finishStop [DecidableEq κ] {s : Stop} {reply : StopReply}
    (h : finishStop s r = some (reply, r')) :
    ∃ body, r.stage? s.entry = some (.concluded body) ∧ reply = s.reply body ∧
      r' = if s.breaksAt body then r else r.remove s.entry := by
  have hover : ∃ body, r.stage? s.entry = some (.concluded body) := by
    unfold finishStop at h
    split at h
    next body hover => exact ⟨body, hover⟩
    next => cases h
  obtain ⟨body, hover⟩ := hover
  rw [finishStop_of_concluded hover, Option.some.injEq, Prod.mk.injEq] at h
  exact ⟨body, hover, h.1.symm, h.2.symm⟩

/-- A stop of several sessions that has come past the first of them. -/
theorem stopEach_cons [DecidableEq κ] {rest : List EntryId} {reply : Except Text Unit}
    (h : stopEach c (e :: rest) r = some (reply, r')) :
    ∃ body, (settle c (reach c e r).2).stage? e = some (.concluded body) ∧
      if (reach c e r).1.breaksAt body
        then r' = settle c (reach c e r).2 ∧ ∃ message, reply = .error message
        else stopEach c rest (settle c (reach c e r).2) = some (reply, r') := by
  rw [stopEach] at h
  simp only at h
  split at h
  next body hover =>
    refine ⟨body, hover, ?_⟩
    cases hr : (reach c e r).1.reply body with
    | brokeDown message =>
      simp only [hr, Option.some.injEq, Prod.mk.injEq] at h
      simpa [Stop.breaksAt, hr] using ⟨h.2.symm, message, h.1.symm⟩
    | stopped => simpa [Stop.breaksAt, hr] using h
    | failed cause => simpa [Stop.breaksAt, hr] using h
  next => cases h

end Registry

end MediaProxy
