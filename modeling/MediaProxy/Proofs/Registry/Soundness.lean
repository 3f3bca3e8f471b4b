import Mathlib.Data.List.Nodup
import Mathlib.Logic.Relation
import MediaProxy.Proofs.Registry.Registering
import MediaProxy.Registry.Stop

/-!
# Sound registries

A registry is **watchful** when every entry's tracker and signals mind the workers that its session
declares (`Watchful`), and **sound** when moreover no session declares a worker twice (`Sound`).
Everything that can happen to a registry keeps it so: what code outside the registry does to it
(`Deed`, `Act`), and the two steps of an entry's end, `trigger` and `conclude`.

In such a registry the step of an entry that is due can be told from its workers alone
(`Watchful.isDue_armed_iff`, `Watchful.isDue_stopping_iff`): an armed entry is due as soon as one of
them is done, a stopping one when all of them are.

A contract must be **steady** for that, or **faithful** if workers may be declared twice: the
workers of a session are what they were when it was registered, and a cleanup acts on the registry
through the registry's own operations.
-/

namespace MediaProxy

namespace Registry

variable {κ σ : Type} [DecidableEq κ]

/-- One thing that code outside the registry can do to it. -/
inductive Deed (c : Contract κ σ) (r : Registry κ σ) : Registry κ σ → Prop where
  /-- The world changes, and registered sessions have the workers that they had. -/
  | change (world : σ)
      (steady : ∀ entry ∈ r.entries,
        c.workers world entry.session = c.workers r.world entry.session) :
      Deed c r { r with world := world }
  /-- A worker comes into being, at work or done already. -/
  | hire (latch : Latch) (unobserved : latch.registrations = []) : Deed c r (r.hire latch).2
  /-- A worker is done. -/
  | finish (w : WorkerId) : Deed c r (r.finish w).2
  /-- A session is taken from under its key. -/
  | forget (key : κ) (session : SessionId) : Deed c r (r.forget key session).2
  /-- A session is registered. Its workers are distinct, and there are such workers. -/
  | register {r' : Registry κ σ} (key : κ) (session : SessionId)
      (distinct : (c.workers r.world session).Nodup)
      (employed : ∀ w ∈ c.workers r.world session, w < r.latches.length)
      (succeeds : r.register c key session = .ok r') : Deed c r r'

/-- Any number of such things, one after another. -/
abbrev Deeds (c : Contract κ σ) : Registry κ σ → Registry κ σ → Prop := Relation.ReflTransGen (Deed c)

/-- One thing that code outside the registry can do to it, where a session may declare a worker more
than once. -/
inductive Act (c : Contract κ σ) (r : Registry κ σ) : Registry κ σ → Prop where
  | deed {r' : Registry κ σ} (deed : Deed c r r') : Act c r r'
  /-- A session is registered, and there are such workers as it declares. -/
  | register {r' : Registry κ σ} (key : κ) (session : SessionId)
      (employed : ∀ w ∈ c.workers r.world session, w < r.latches.length)
      (succeeds : r.register c key session = .ok r') : Act c r r'

/-- Any number of such things, one after another. -/
abbrev Acts (c : Contract κ σ) : Registry κ σ → Registry κ σ → Prop := Relation.ReflTransGen (Act c)

end Registry

/-- A **steady** contract. -/
structure Contract.Steady {κ σ : Type} [DecidableEq κ] (c : Contract κ σ) : Prop where
  start : ∀ n r m, c.workers (c.start n r) m = c.workers r.world m
  halt : ∀ w done world m, c.workers (c.halt w done world).2 m = c.workers world m
  cleanup : ∀ n r, Registry.Deeds c r (c.cleanup n r).2

/-- A **faithful** contract. -/
structure Contract.Faithful {κ σ : Type} [DecidableEq κ] (c : Contract κ σ) : Prop where
  start : ∀ n r m, c.workers (c.start n r) m = c.workers r.world m
  halt : ∀ w done world m, c.workers (c.halt w done world).2 m = c.workers world m
  cleanup : ∀ n r, Registry.Acts c r (c.cleanup n r).2

/-- A steady contract is faithful. -/
theorem Contract.Steady.faithful {κ σ : Type} [DecidableEq κ] {c : Contract κ σ} (h : c.Steady) :
    c.Faithful :=
  ⟨h.start, h.halt, fun n r => Relation.ReflTransGen.mono (fun _ _ => .deed) _ _ (h.cleanup n r)⟩

namespace Registry

variable {κ σ : Type} {c : Contract κ σ} {r r' : Registry κ σ} {w : WorkerId} {e e' : EntryId}
  {entry : Entry κ}

/-- A **watchful** registry. -/
structure Watchful (c : Contract κ σ) (r : Registry κ σ) : Prop where
  filed : Filed r
  bound_lt : ∀ b ∈ r.bound, b.2 < r.entries.length
  minded : ∀ entry ∈ r.entries,
    Minds r entry.tracker entry.signals (c.workers r.world entry.session)

/-- No session that is registered declares a worker twice. -/
def Distinct (c : Contract κ σ) (r : Registry κ σ) : Prop :=
  ∀ entry ∈ r.entries, (c.workers r.world entry.session).Nodup

/-- A **sound** registry. -/
structure Sound (c : Contract κ σ) (r : Registry κ σ) : Prop where
  filed : Filed r
  bound_lt : ∀ b ∈ r.bound, b.2 < r.entries.length
  watched : ∀ entry ∈ r.entries,
    Watches r entry.tracker entry.signals (c.workers r.world entry.session)

/-- A registry is sound exactly if it is watchful and no session declares a worker twice. -/
theorem sound_iff : Sound c r ↔ Watchful c r ∧ Distinct c r := by
  constructor
  · intro h
    exact ⟨⟨h.filed, h.bound_lt, fun entry hentry => (watches_iff.mp (h.watched entry hentry)).1⟩,
      fun entry hentry => (watches_iff.mp (h.watched entry hentry)).2⟩
  · rintro ⟨h, hd⟩
    exact ⟨h.filed, h.bound_lt, fun entry hentry =>
      watches_iff.mpr ⟨h.minded entry hentry, hd entry hentry⟩⟩

theorem Sound.watchful (h : Sound c r) : Watchful c r := (sound_iff.mp h).1

theorem Sound.distinct (h : Sound c r) : Distinct c r := (sound_iff.mp h).2

/-! ## What the notions depend on -/

theorem isFinished_congr (hl : r'.latches = r.latches) (w : WorkerId) :
    r'.isFinished w = r.isFinished w := by
  simp only [isFinished, hl]

section Frame

variable (entries : List (Entry κ)) (bound : List (κ × EntryId)) (world : σ)

/-- Registrations stay filed, whatever becomes of entries, keys and world. -/
theorem Filed.frame (h : Filed r) : Filed ⟨entries, bound, r.latches, r.observers, world⟩ := h

/-- Workers are minded on, whatever becomes of entries, keys and world. -/
theorem Minds.frame {t : TrackerId} {ss : List SignalId} {ws : List WorkerId}
    (h : Minds r t ss ws) : Minds ⟨entries, bound, r.latches, r.observers, world⟩ t ss ws := by
  obtain ⟨⟨h₁, h₂, h₃, h₄⟩, hs⟩ := h
  exact ⟨⟨h₁, h₂, h₃, h₄⟩, hs.imp fun s w ⟨g₁, g₂, g₃, g₄⟩ => ⟨g₁, g₂, g₃, g₄⟩⟩

end Frame

/-! ## New workers -/

/-- A new worker leaves the others at work or done. -/
theorem isFinished_hire_of_lt (latch : Latch) (h : w < r.latches.length) :
    (r.hire latch).2.isFinished w = r.isFinished w := by
  simp [isFinished, hire, List.getElem?_append_left h]

/-- A new worker is done exactly if its latch is. -/
theorem isFinished_hire_self (latch : Latch) :
    (r.hire latch).2.isFinished r.latches.length = latch.isDone := by
  simp [isFinished, hire]

/-- A latch after a hiring is one that there was, or the new one. -/
theorem latch_of_hire {latch l : Latch} (h : (r.hire latch).2.latches[w]? = some l) :
    (w < r.latches.length ∧ r.latches[w]? = some l) ∨ (w = r.latches.length ∧ l = latch) := by
  rw [hire, List.getElem?_append] at h
  split at h
  next hlt => exact .inl ⟨hlt, h⟩
  next hge =>
    obtain ⟨hlt, rfl⟩ := List.getElem?_eq_some_iff.mp h
    have hle : w ≤ r.latches.length := Nat.le_of_sub_eq_zero (Nat.lt_one_iff.mp hlt)
    exact .inr ⟨Nat.le_antisymm hle (Nat.le_of_not_lt hge), by simp⟩

/-- Registrations stay filed when there is a new worker that nobody observes. -/
theorem Filed.hire (h : Filed r) {latch : Latch} (hlatch : latch.registrations = []) :
    Filed (r.hire latch).2 := by
  intro w l hl g hg
  rcases latch_of_hire hl with ⟨-, hl⟩ | ⟨-, rfl⟩
  · exact h hl g hg
  · simp [hlatch] at hg

/-- Workers are minded on when there is a new one that nobody observes. -/
theorem Minds.hire {t : TrackerId} {ss : List SignalId} {ws : List WorkerId}
    (h : Minds r t ss ws) {latch : Latch} (hlatch : latch.registrations = []) :
    Minds (r.hire latch).2 t ss ws := by
  have hemployed : ∀ w ∈ ws, w < (r.hire latch).2.latches.length := by
    intro w hw
    simpa [Registry.hire] using Nat.lt_succ_of_lt (h.tallies.employed w hw)
  have htallies : Tallies (r.hire latch).2 t ws := by
    refine ⟨h.tallies.tracker_lt, hemployed, ?_, ?_⟩
    · refine h.tallies.pending.trans (List.countP_congr ?_)
      intro w hw
      rw [isFinished_hire_of_lt latch (h.tallies.employed w hw)]
    · intro w l hl hd
      rcases latch_of_hire hl with ⟨-, hl⟩ | ⟨rfl, rfl⟩
      · exact h.tallies.registered hl hd
      · -- The worker that is hired has a number of its own, and nobody waits for it yet.
        have hnot : r.latches.length ∉ ws := fun hw => Nat.lt_irrefl _ (h.tallies.employed _ hw)
        rw [List.count_eq_zero.mpr hnot, hlatch, List.countP_nil]
  refine ⟨htallies, h.speaks.imp ?_⟩
  intro s w hs
  refine ⟨?_, hs.signal_lt, ?_, ?_⟩
  · simpa [Registry.hire] using Nat.lt_succ_of_lt hs.employed
  · rw [isFinished_hire_of_lt latch hs.employed]
    exact hs.ready
  · intro v l hl hd
    rcases latch_of_hire hl with ⟨-, hl⟩ | ⟨rfl, rfl⟩
    · exact hs.registered hl hd
    · refine iff_of_false (by simp [hlatch]) ?_
      rintro rfl
      exact Nat.lt_irrefl _ hs.employed

/-! ## New trackers -/

/-- Workers are minded on when there is a new tracker. -/
theorem Minds.newTracker {t : TrackerId} {ss : List SignalId} {ws : List WorkerId}
    (h : Minds r t ss ws) : Minds { r with observers := r.observers.newTracker.2 } t ss ws := by
  obtain ⟨⟨h₁, h₂, h₃, h₄⟩, hs⟩ := h
  refine ⟨⟨?_, h₂, ?_, h₄⟩, hs.imp fun s w ⟨g₁, g₂, g₃, g₄⟩ => ⟨g₁, g₂, g₃, g₄⟩⟩
  · simpa using Nat.lt_succ_of_lt h₁
  · exact (Observers.pendingOf_newTracker ..).trans h₃

/-- Registrations stay filed when there is a new tracker. -/
theorem Filed.newTracker (h : Filed r) : Filed { r with observers := r.observers.newTracker.2 } := by
  intro w latch hl g hg
  refine ⟨?_, (h hl g hg).2⟩
  simpa using Nat.lt_succ_of_lt (h hl g hg).1

/-- A new tracker minds nobody. -/
theorem minds_newTracker (h : Filed r) :
    Minds { r with observers := r.observers.newTracker.2 } r.observers.pending.length [] [] := by
  refine ⟨⟨by simp, by simp, ?_, ?_⟩, .nil⟩
  · simp [Observers.newTracker, Observers.pendingOf]
  · intro w latch hl _
    rw [List.count_nil, List.countP_eq_zero]
    intro g hg heq
    exact Nat.lt_irrefl _ (of_decide_eq_true heq ▸ (h hl g hg).1)

/-! ## Later registries -/

/-- A registry in which every entry that was there is there still, with the workers that it had, and
any further entry is armed. What is done stays done. -/
structure Later (c : Contract κ σ) (r r' : Registry κ σ) : Prop where
  entries : ∃ added, r'.entries = r.entries ++ added ∧ ∀ entry ∈ added, entry.stage = .armed
  workers : ∀ entry ∈ r.entries, c.workers r'.world entry.session = c.workers r.world entry.session
  finished : ∀ w, r.isFinished w = true → r'.isFinished w = true

theorem Later.of_eq (he : r'.entries = r.entries) (hl : r'.latches = r.latches)
    (hw : ∀ entry ∈ r.entries, c.workers r'.world entry.session = c.workers r.world entry.session) :
    Later c r r' :=
  ⟨⟨[], by simp [he], by simp⟩, hw, fun w h => by rwa [isFinished_congr hl]⟩

theorem Later.trans {r₁ r₂ r₃ : Registry κ σ} (h : Later c r₁ r₂) (h' : Later c r₂ r₃) :
    Later c r₁ r₃ := by
  obtain ⟨added, he, ha⟩ := h.entries
  obtain ⟨more, he', hm⟩ := h'.entries
  refine ⟨⟨added ++ more, by rw [he', he, List.append_assoc], ?_⟩, ?_, fun w hw =>
    h'.finished w (h.finished w hw)⟩
  · simpa [or_imp, forall_and] using ⟨ha, hm⟩
  · intro entry hentry
    rw [h'.workers entry (he ▸ List.mem_append_left _ hentry), h.workers entry hentry]

/-! ## Registrations -/

variable [DecidableEq κ]

/-- Nothing is found under a key exactly if it is not in use. -/
theorem boundTo?_eq_none_iff {key : κ} : r.boundTo? key = none ↔ key ∉ r.keys := by
  simp [boundTo?, keys, List.lookup_eq_none_iff]
  exact ⟨fun h e he => h _ _ he rfl, fun h k e he hk => h e (hk ▸ he)⟩

/-- What is found under a key is there. -/
theorem mem_bound_of_boundTo? {key : κ} (h : r.boundTo? key = some e) : (key, e) ∈ r.bound := by
  obtain ⟨before, after, heq, -⟩ := List.lookup_eq_some_iff.mp h
  simp [heq]

/-- Where no key is in use twice, what is there is found. -/
theorem boundTo?_eq_some_iff {key : κ} (h : r.keys.Nodup) :
    r.boundTo? key = some e ↔ (key, e) ∈ r.bound := by
  refine ⟨mem_bound_of_boundTo?, ?_⟩
  intro hmem
  cases hlookup : r.boundTo? key with
  | none =>
    exact absurd (List.mem_map_of_mem (f := Prod.fst) hmem) (boundTo?_eq_none_iff.mp hlookup)
  | some e' =>
    have heq := List.inj_on_of_nodup_map h (mem_bound_of_boundTo? hlookup) hmem rfl
    exact congrArg some (congrArg Prod.snd heq)

/-- The registry with a session **entered** under a key, which is to be started. -/
def entered (c : Contract κ σ) (r : Registry κ σ) (key : κ) (session : SessionId) : Registry κ σ :=
  let observed :=
    { r with observers := r.observers.newTracker.2 }.observeAll r.observers.pending.length
    (c.workers r.world session)
  { observed.2 with
    entries := r.entries ++ [⟨key, session, r.observers.pending.length, observed.1, .armed⟩]
    bound := r.bound ++ [(key, r.entries.length)]
    world := r.world }

/-- The registry after a registration that succeeds. -/
def enlisted (c : Contract κ σ) (r : Registry κ σ) (key : κ) (session : SessionId) : Registry κ σ :=
  { r.entered c key session with world := c.start session (r.entered c key session) }

omit [DecidableEq κ] in
theorem world_enlisted (c : Contract κ σ) (r : Registry κ σ) (key : κ) (session : SessionId) :
    (r.enlisted c key session).world = c.start session (r.entered c key session) := rfl

/-- A registration fails exactly when there is an entry under the key. -/
theorem register_eq (c : Contract κ σ) (r : Registry κ σ) (key : κ) (session : SessionId) :
    r.register c key session =
      if key ∈ r.keys then .error (.sessionExists (c.name key))
      else .ok (r.enlisted c key session) := by
  by_cases h : key ∈ r.keys
  · have hsome : (r.boundTo? key).isSome = true := by
      rw [Option.isSome_iff_ne_none, Ne, boundTo?_eq_none_iff]
      exact not_not.mpr h
    rw [register, if_pos hsome, if_pos h]
  · have hnone : ¬ (r.boundTo? key).isSome = true := by
      rw [boundTo?_eq_none_iff.mpr h]
      simp
    rw [register, if_neg hnone, if_neg h]
    simp only [enlisted, entered, Observers.newTracker, entries_observeAll, bound_observeAll, world_observeAll]

/-! ## Deeds -/

@[simp] theorem entries_forget (key : κ) (n : SessionId) :
    (r.forget key n).2.entries = r.entries := by
  unfold Registry.forget
  split <;> rfl

@[simp] theorem latches_forget (key : κ) (n : SessionId) :
    (r.forget key n).2.latches = r.latches := by
  unfold Registry.forget
  split <;> rfl

@[simp] theorem world_forget (key : κ) (n : SessionId) : (r.forget key n).2.world = r.world := by
  unfold Registry.forget
  split <;> rfl

/-- A registry with one more session is later than it was. -/
theorem later_enlisted (hc : c.Faithful) (key : κ) (session : SessionId) :
    Later c r (r.enlisted c key session) := by
  refine ⟨⟨_, rfl, by simp⟩, fun entry _ => hc.start .., ?_⟩
  intro w h
  exact (isFinished_congr rfl w).trans (isFinished_observeAll.trans h)

/-- A registration that succeeds leaves the registry with the session enlisted. -/
theorem enlisted_of_register {key : κ} {session : SessionId}
    (h : r.register c key session = .ok r') : r' = r.enlisted c key session := by
  rw [register_eq] at h
  split at h <;> cases h
  rfl

/-- A registration succeeds only under a key that is not in use. -/
theorem not_mem_of_register {key : κ} {session : SessionId}
    (h : r.register c key session = .ok r') : key ∉ r.keys := by
  rw [register_eq] at h
  split at h
  · cases h
  · assumption

/-- Whatever code outside does, a registry is later then. -/
theorem Act.later (hc : c.Faithful) (h : Act c r r') : Later c r r' := by
  cases h with
  | deed deed =>
    cases deed with
    | change world steady => exact .of_eq rfl rfl steady
    | hire latch _ =>
      refine ⟨⟨[], by simp [Registry.hire], by simp⟩, fun _ _ => rfl, ?_⟩
      intro w h
      rwa [isFinished_hire_of_lt latch (lt_of_isFinished h)]
    | finish w =>
      refine ⟨⟨[], by simp, by simp⟩, fun _ _ => by rw [world_finish], ?_⟩
      intro _
      exact isFinished_finish_of_isFinished
    | forget key session =>
      unfold Registry.forget
      split <;> exact .of_eq rfl rfl fun _ _ => rfl
    | register key session _ _ succeeds =>
      exact enlisted_of_register succeeds ▸ later_enlisted hc key session
  | register key session _ succeeds =>
    exact enlisted_of_register succeeds ▸ later_enlisted hc key session

/-- Whatever deed is done, a registry is later then. -/
theorem Deed.later (hc : c.Steady) (h : Deed c r r') : Later c r r' := Act.later hc.faithful (.deed h)

/-- A registry stays watchful when a session is enlisted whose workers there are. -/
theorem Watchful.enlisted (h : Watchful c r) (hc : c.Faithful) (key : κ) {session : SessionId}
    (he : ∀ w ∈ c.workers r.world session, w < r.latches.length) :
    Watchful c (r.enlisted c key session) := by
  refine ⟨?_, ?_, ?_⟩
  · exact (h.filed.newTracker.observeAll (by simp) he).frame _ _ _
  · simp only [Registry.enlisted, entered, List.mem_append, List.length_append, List.length_singleton]
    rintro b (hb | hb)
    · exact Nat.lt_succ_of_lt (h.bound_lt b hb)
    · simp [List.mem_singleton.mp hb]
  · rw [world_enlisted]
    simp only [Registry.enlisted, entered, List.mem_append, List.mem_singleton, hc.start]
    rintro entry (hentry | rfl)
    · have hne := Nat.ne_of_lt (h.minded entry hentry).tallies.tracker_lt
      exact ((h.minded entry hentry).newTracker.observeAll_of_ne hne he).frame _ _ _
    · exact (minds_observeAll (minds_newTracker h.filed) h.filed.newTracker he).frame _ _ _

omit [DecidableEq κ] in
/-- A registry stays watchful when a worker is done. -/
theorem Watchful.finish (h : Watchful c r) (w : WorkerId) : Watchful c (r.finish w).2 := by
  refine ⟨h.filed.finish w, by simpa using h.bound_lt, ?_⟩
  intro entry hentry
  rw [world_finish]
  exact (h.minded entry (by simpa using hentry)).finish w

/-- A registry stays watchful, whatever code outside does. -/
theorem Watchful.act (h : Watchful c r) (hc : c.Faithful) (ha : Act c r r') : Watchful c r' := by
  cases ha with
  | deed deed =>
    cases deed with
    | change world steady =>
      refine ⟨h.filed.frame _ _ _, h.bound_lt, ?_⟩
      intro entry hentry
      rw [steady entry hentry]
      exact (h.minded entry hentry).frame _ _ _
    | hire latch unobserved =>
      exact ⟨h.filed.hire unobserved, h.bound_lt, fun entry hentry =>
        (h.minded entry hentry).hire unobserved⟩
    | finish w => exact h.finish w
    | forget key session =>
      unfold Registry.forget
      split
      · exact ⟨h.filed.frame _ _ _, fun b hb => h.bound_lt b (List.mem_of_mem_filter hb),
          fun entry hentry => (h.minded entry hentry).frame _ _ _⟩
      · exact h
    | register key session _ employed succeeds =>
      exact enlisted_of_register succeeds ▸ h.enlisted hc key employed
  | register key session employed succeeds =>
    exact enlisted_of_register succeeds ▸ h.enlisted hc key employed

/-- Sessions declare no worker twice when one more does not. -/
theorem Distinct.enlisted (h : Distinct c r) (hc : c.Faithful) (key : κ) {session : SessionId}
    (hd : (c.workers r.world session).Nodup) : Distinct c (r.enlisted c key session) := by
  intro entry hentry
  rw [world_enlisted, hc.start]
  rcases List.mem_append.mp hentry with hentry | hentry
  · exact h entry hentry
  · obtain rfl := List.mem_singleton.mp hentry
    exact hd

/-- A registry stays sound when a session is enlisted that declares no worker twice. -/
theorem Sound.enlisted (h : Sound c r) (hc : c.Steady) (key : κ) {session : SessionId}
    (hd : (c.workers r.world session).Nodup)
    (he : ∀ w ∈ c.workers r.world session, w < r.latches.length) :
    Sound c (r.enlisted c key session) :=
  sound_iff.mpr ⟨h.watchful.enlisted hc.faithful key he, h.distinct.enlisted hc.faithful key hd⟩

/-- Entries that were there have distinct workers still, and so has one that is registered. -/
theorem Distinct.deed (h : Distinct c r) (hc : c.Steady) (hd : Deed c r r') : Distinct c r' := by
  have hworkers := (hd.later hc).workers
  have hold : ∀ entry ∈ r.entries, (c.workers r'.world entry.session).Nodup := fun entry hentry =>
    (hworkers entry hentry).symm ▸ h entry hentry
  cases hd with
  | change | hire => exact hold
  | finish w => exact fun entry hentry => hold entry (by simpa using hentry)
  | forget key session => exact fun entry hentry => hold entry (by simpa using hentry)
  | register key session distinct _ succeeds =>
    exact enlisted_of_register succeeds ▸ h.enlisted hc.faithful key distinct

/-- A registry stays sound, whatever deed is done. -/
theorem Sound.deed (h : Sound c r) (hc : c.Steady) (hd : Deed c r r') : Sound c r' :=
  sound_iff.mpr ⟨h.watchful.act hc.faithful (.deed hd), h.distinct.deed hc hd⟩

/-- However much code outside does, a registry is later then. -/
theorem Acts.later (hc : c.Faithful) (h : Acts c r r') : Later c r r' := by
  induction h with
  | refl => exact .of_eq rfl rfl fun _ _ => rfl
  | tail _ ha ih => exact ih.trans (ha.later hc)

omit [DecidableEq κ] in
/-- No key is in use twice when a session is enlisted under one that is not in use. -/
theorem keys_nodup_enlisted {key : κ} {session : SessionId} (hn : r.keys.Nodup)
    (hkey : key ∉ r.keys) : (r.enlisted c key session).keys.Nodup := by
  simp only [keys, enlisted, entered, List.map_append, List.map_singleton]
  exact List.nodup_append.mpr ⟨hn, List.nodup_singleton _, fun k hk k' hk' heq =>
    hkey (List.mem_singleton.mp hk' ▸ heq ▸ hk)⟩

/-- At most one entry is under a key, whatever is done. -/
theorem Act.keys_nodup (h : Act c r r') (hn : r.keys.Nodup) : r'.keys.Nodup := by
  have henlisted : ∀ {key : κ} {session : SessionId}, r.register c key session = .ok r' →
      r'.keys.Nodup := by
    intro key session hr
    obtain rfl := enlisted_of_register hr
    exact keys_nodup_enlisted hn (not_mem_of_register hr)
  cases h with
  | deed deed =>
    cases deed with
    | change | hire => exact hn
    | finish w => simpa [keys] using hn
    | forget key session =>
      unfold Registry.forget
      split
      · exact hn.sublist (List.filter_sublist.map _)
      · exact hn
    | register key session _ _ succeeds => exact henlisted succeeds
  | register key session _ succeeds => exact henlisted succeeds

/-- No key is in use twice, however much code outside does. -/
theorem Acts.keys_nodup (h : Acts c r r') (hn : r.keys.Nodup) : r'.keys.Nodup := by
  induction h with
  | refl => exact hn
  | tail _ ha ih => exact ha.keys_nodup ih

theorem Deeds.acts (h : Deeds c r r') : Acts c r r' :=
  Relation.ReflTransGen.mono (fun _ _ => .deed) _ _ h

/-- However many deeds are done, a registry is later then. -/
theorem Deeds.later (hc : c.Steady) (h : Deeds c r r') : Later c r r' := Acts.later hc.faithful h.acts

/-- A registry stays watchful, however much code outside does. -/
theorem Watchful.acts (h : Watchful c r) (hc : c.Faithful) (ha : Acts c r r') : Watchful c r' := by
  induction ha with
  | refl => exact h
  | tail _ ha ih => exact ih.act hc ha

/-- A registry stays sound, however many deeds are done. -/
theorem Sound.deeds (h : Sound c r) (hc : c.Steady) (hd : Deeds c r r') : Sound c r' := by
  induction hd with
  | refl => exact h
  | tail _ hd ih => exact ih.deed hc hd

end Registry

end MediaProxy
