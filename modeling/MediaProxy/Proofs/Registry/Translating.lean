import MediaProxy.Proofs.Registry.Ending

/-!
# The registry in another world

What a registry does depends on the world only through its contract. When one contract does in one
kind of world what another does in another kind (`Contract.Translates`), every operation can be seen
in either: to act and to look at the result through a map of worlds is to look first and to act
then.

So a world may be given something more to keep, a log say, and nothing that happens is changed by
that; and what is kept has no influence on what happens.
-/

namespace MediaProxy

/-- The registry in another kind of world. -/
def Registry.mapWorld {κ σ τ : Type} (f : σ → τ) (r : Registry κ σ) : Registry κ τ :=
  ⟨r.entries, r.bound, r.latches, r.observers, f r.world⟩

/-- Contracts that a map of worlds **translates**: the second does in the image of a world what the
first does in the world. -/
structure Contract.Translates {κ σ τ : Type} (f : σ → τ) (c : Contract κ σ) (d : Contract κ τ) :
    Prop where
  name : ∀ key, d.name key = c.name key
  workers : ∀ world n, d.workers (f world) n = c.workers world n
  start : ∀ n r, d.start n (r.mapWorld f) = f (c.start n r)
  halt : ∀ w done world,
    d.halt w done (f world) = ((c.halt w done world).1, f (c.halt w done world).2)
  cleanup : ∀ n r, d.cleanup n (r.mapWorld f) = ((c.cleanup n r).1, (c.cleanup n r).2.mapWorld f)

namespace Registry

variable {κ σ τ : Type} {f : σ → τ} {c : Contract κ σ} {d : Contract κ τ}

/-! ## What has nothing to do with the world -/

section Free

variable (f : σ → τ) (r : Registry κ σ)

@[simp] theorem entries_mapWorld : (r.mapWorld f).entries = r.entries := rfl

@[simp] theorem bound_mapWorld : (r.mapWorld f).bound = r.bound := rfl

@[simp] theorem world_mapWorld : (r.mapWorld f).world = f r.world := rfl

@[simp] theorem isFinished_mapWorld (w : WorkerId) : (r.mapWorld f).isFinished w = r.isFinished w := rfl

theorem finish_mapWorld (w : WorkerId) :
    (r.mapWorld f).finish w = ((r.finish w).1, (r.finish w).2.mapWorld f) := by
  cases hl : r.latches[w]? <;> simp [finish, mapWorld, hl]

theorem observe_mapWorld (w : WorkerId) (t : TrackerId) :
    (r.mapWorld f).observe w t = ((r.observe w t).1, (r.observe w t).2.mapWorld f) := by
  cases hl : r.latches[w]? <;> simp [observe, mapWorld, hl]

theorem observeAll_mapWorld (t : TrackerId) (ws : List WorkerId) :
    (r.mapWorld f).observeAll t ws = ((r.observeAll t ws).1, (r.observeAll t ws).2.mapWorld f) := by
  induction ws generalizing r with
  | nil => rfl
  | cons w ws ih => simp only [observeAll, observe_mapWorld, ih]

theorem forget_mapWorld [DecidableEq κ] (key : κ) (n : SessionId) :
    (r.mapWorld f).forget key n = ((r.forget key n).1, (r.forget key n).2.mapWorld f) := by
  have hlookup : (r.mapWorld f).lookup key = r.lookup key := rfl
  unfold forget
  rw [hlookup]
  split <;> rfl

theorem remove_mapWorld [DecidableEq κ] (e : EntryId) :
    (r.mapWorld f).remove e = (r.remove e).mapWorld f := by
  cases he : r.entries[e]? <;> simp [remove, mapWorld, he, unbind]

theorem finishStop_mapWorld [DecidableEq κ] (s : Stop) : finishStop s (r.mapWorld f) =
    (finishStop s r).map fun (reply, r) => (reply, r.mapWorld f) := by
  have hstage : (r.mapWorld f).stage? s.entry = r.stage? s.entry := rfl
  cases hover : r.stage? s.entry with
  | none => simp [finishStop, hstage, hover]
  | some stage =>
    cases stage with
    | concluded body =>
      rw [finishStop_of_concluded hover, finishStop_of_concluded (hstage.trans hover), remove_mapWorld]
      cases s.breaksAt body <;> rfl
    | armed | stopping => simp [finishStop, hstage, hover]

end Free

/-! ## Steps -/

variable {r : Registry κ σ} {e : EntryId}

theorem halt_mapWorld (h : c.Translates f d) (w : WorkerId) :
    Registry.halt d (r.mapWorld f) w = (Registry.halt c r w).mapWorld f := by
  simp only [halt_eq, isFinished_mapWorld, world_mapWorld, h.halt]
  split
  · exact congrArg Prod.snd
      (finish_mapWorld f { r with world := (c.halt w (r.isFinished w) r.world).2 } w)
  · rfl

theorem foldl_halt_mapWorld (h : c.Translates f d) (ws : List WorkerId) :
    ws.foldl (Registry.halt d) (r.mapWorld f) = (ws.foldl (Registry.halt c) r).mapWorld f := by
  induction ws generalizing r with
  | nil => rfl
  | cons w ws ih => rw [List.foldl_cons, halt_mapWorld h, ih, List.foldl_cons]

/-- Contracts that are translated trigger alike. -/
theorem trigger_mapWorld (h : c.Translates f d) :
    trigger d e (r.mapWorld f) = (trigger c e r).mapWorld f := by
  cases he : r.entries[e]? with
  | none => simp [trigger, mapWorld, he]
  | some entry =>
    rw [trigger_eq he, trigger_eq (r := r.mapWorld f) he, ← foldl_halt_mapWorld h]
    exact congrArg (List.foldl (Registry.halt d) _) (h.workers r.world entry.session)

/-- Contracts that are translated conclude alike. -/
theorem conclude_mapWorld (h : c.Translates f d) :
    conclude d e (r.mapWorld f) = (conclude c e r).mapWorld f := by
  cases he : r.entries[e]? with
  | none => simp [conclude, mapWorld, he]
  | some entry =>
    rw [conclude_eq he, conclude_eq (r := r.mapWorld f) he, h.cleanup]
    rfl

theorem proceed_mapWorld (h : c.Translates f d) :
    proceed d e (r.mapWorld f) = (proceed c e r).mapWorld f := by
  have hstage : (r.mapWorld f).stage? e = r.stage? e := rfl
  unfold proceed
  rw [hstage]
  split
  · exact trigger_mapWorld h
  · exact conclude_mapWorld h
  · rfl

theorem reach_mapWorld (h : c.Translates f d) :
    reach d e (r.mapWorld f) = ((reach c e r).1, (reach c e r).2.mapWorld f) := by
  have hstage : (r.mapWorld f).stage? e = r.stage? e := rfl
  unfold reach
  rw [hstage]
  split
  · rw [trigger_mapWorld h]
  · rfl

/-! ## Registering and settling -/

theorem entered_mapWorld (h : c.Translates f d) (key : κ) (n : SessionId) :
    (r.mapWorld f).entered d key n = (r.entered c key n).mapWorld f := by
  have hobserved := observeAll_mapWorld f { r with observers := r.observers.newTracker.2 }
    r.observers.pending.length (c.workers r.world n)
  simp only [entered, world_mapWorld, h.workers]
  simp only [mapWorld] at hobserved ⊢
  rw [hobserved]

theorem enlisted_mapWorld (h : c.Translates f d) (key : κ) (n : SessionId) :
    (r.mapWorld f).enlisted d key n = (r.enlisted c key n).mapWorld f := by
  rw [enlisted, entered_mapWorld h, h.start]
  rfl

/-- Contracts that are translated register alike. -/
theorem register_mapWorld [DecidableEq κ] (h : c.Translates f d) (key : κ) (n : SessionId) :
    (r.mapWorld f).register d key n = (r.register c key n).map (mapWorld f) := by
  have hkeys : (r.mapWorld f).keys = r.keys := rfl
  rw [register_eq, register_eq, hkeys, enlisted_mapWorld h, h.name]
  split <;> rfl

theorem advance_mapWorld (h : c.Translates f d) :
    advance d (r.mapWorld f) = (advance c r).mapWorld f := by
  have hdue : (r.mapWorld f).entries.findIdx? (r.mapWorld f).isDue = r.entries.findIdx? r.isDue := rfl
  unfold advance
  rw [hdue]
  split
  · rfl
  · exact proceed_mapWorld h

theorem advances_mapWorld (h : c.Translates f d) (n : Nat) :
    advances d n (r.mapWorld f) = (advances c n r).mapWorld f := by
  induction n generalizing r with
  | zero => rfl
  | succ n ih => rw [advances, advance_mapWorld h, ih, advances]

/-- Contracts that are translated settle alike. -/
theorem settle_mapWorld (h : c.Translates f d) :
    settle d (r.mapWorld f) = (settle c r).mapWorld f := advances_mapWorld h _

/-! ## Stopping -/

theorem stopEach_mapWorld (h : c.Translates f d) (es : List EntryId) :
    stopEach d es (r.mapWorld f) =
      (stopEach c es r).map fun (reply, r) => (reply, r.mapWorld f) := by
  induction es generalizing r with
  | nil => rfl
  | cons e rest ih =>
    have hstage : ∀ r : Registry κ σ, (r.mapWorld f).stage? e = r.stage? e := fun _ => rfl
    simp only [stopEach, reach_mapWorld h, settle_mapWorld h, hstage]
    split
    next body =>
      split
      · rfl
      · exact ih
    next => rfl

variable [DecidableEq κ]

/-- Contracts that are translated stop one session alike. -/
theorem stopOne_mapWorld (h : c.Translates f d) (key : κ) : stopOne d key (r.mapWorld f) =
    (stopOne c key r).map fun (reply, r) => (reply, r.mapWorld f) := by
  have hbound : (r.mapWorld f).boundTo? key = r.boundTo? key := rfl
  unfold stopOne beginStop
  rw [hbound]
  cases r.boundTo? key with
  | none => simp [h.name]
  | some e => simp only [reach_mapWorld h, settle_mapWorld h, finishStop_mapWorld]

theorem foldl_remove_mapWorld (es : List EntryId) :
    es.foldl remove (r.mapWorld f) = (es.foldl remove r).mapWorld f :=
  List.foldl_hom (mapWorld f) fun r e => remove_mapWorld f r e

/-- Contracts that are translated stop all sessions alike. -/
theorem stopAll_mapWorld (h : c.Translates f d) : stopAll d (r.mapWorld f) =
    (stopAll c r).map fun (reply, r) => (reply, r.mapWorld f) := by
  unfold stopAll
  simp only [bound_mapWorld, stopEach_mapWorld h]
  cases stopEach c (r.bound.map Prod.snd) r with
  | none => rfl
  | some result =>
    obtain ⟨reply | _, r'⟩ := result
    · rfl
    · simp [foldl_remove_mapWorld]

end Registry

end MediaProxy
