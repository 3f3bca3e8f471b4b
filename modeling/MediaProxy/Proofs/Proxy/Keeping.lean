import Mathlib.Data.List.Nodup
import MediaProxy.Proofs.Proxy.Moments
import MediaProxy.Proofs.Runs

/-!
# What is kept from moment to moment

However starts and ends are mingled, every session stands where its end has come to
(`Session.Stands`): its relays close only by themselves until they are silenced, its backend is over
from the cleanup on, and it is under its key from its registration until it is removed. Each moment
keeps it so (`Midway.Kept.step`); of the moments that are cues, two change anything of this at all.
-/

namespace MediaProxy

open Registry

variable {β : Type}

/-! ## Cues -/

namespace Cue

/-- Which of the cues that matter here comes in which place. -/
theorem place {late : Bool} {k : Nat} {cue : Cue} (h : (course late)[k]? = some cue) :
    (cue = .silenced ↔ k = 3) ∧ (cue = .ended ↔ k = 4) ∧ (cue = .removed ↔ k = 5) ∧
      (k = 2 → cue = .asked true) := by
  rcases k with _ | _ | _ | _ | _ | _ | _ | k
  all_goals
    simp only [course, List.getElem?_cons_succ, List.getElem?_cons_zero, List.getElem?_nil,
      Option.some.injEq, reduceCtorEq] at h
  all_goals
    subst h
    simp

variable [Backend β] (cue : Cue) (r : Sessions β) (n : SessionId) (s : Session)

@[simp] theorem latches_perform : (cue.perform n s r).latches = r.latches := by
  cases cue with
  | removed => exact Session.latches_leave
  | _ => rfl

@[simp] theorem isFinished_perform (w : WorkerId) :
    (cue.perform n s r).isFinished w = r.isFinished w := isFinished_congr (latches_perform ..) w

@[simp] theorem length_entries_perform :
    (cue.perform n s r).entries.length = r.entries.length := by
  cases cue <;> simp [perform]

/-- A cue leaves every entry with its session. -/
theorem session_perform {m : EntryId} {entry : Entry ClientKey}
    (he : (cue.perform n s r).entries[m]? = some entry) :
    ∃ old, r.entries[m]? = some old ∧ entry.session = old.session := by
  have hset : ∀ stage, (r.setStage n stage).entries[m]? = some entry →
      ∃ old, r.entries[m]? = some old ∧ entry.session = old.session := by
    intro stage he
    rw [getElem?_setStage, Option.map_eq_some_iff] at he
    obtain ⟨old, hold, rfl⟩ := he
    refine ⟨old, hold, ?_⟩
    split <;> rfl
  cases cue with
  | triggered => exact hset _ he
  | concluded => exact hset _ he
  | removed => exact ⟨entry, by rwa [perform, Session.entries_leave] at he, rfl⟩
  | _ => exact ⟨entry, he, rfl⟩

/-- The only cue that changes sessions is that they are silenced. -/
theorem sessions_perform : (cue.perform n s r).world.sessions =
    if cue = .silenced then r.world.sessions.set n (s.silenced r.world.site)
      else r.world.sessions := by
  cases cue with
  | asked done => exact Floor.sessions_halt ..
  | removed => exact Session.sessions_leave
  | _ => rfl

/-- The only cue that changes what is under keys is that a session is removed. -/
theorem bound_perform (h : cue ≠ .removed) : (cue.perform n s r).bound = r.bound := by
  cases cue with
  | removed => exact absurd rfl h
  | _ => rfl

end Cue

/-! ## Where a session stands -/

/-- What is true of a session of a number whose end has had `k` cues: it **stands** there. -/
structure Session.Stands (r : Sessions β) (n : SessionId) (k : Nat) (s : Session) : Prop where
  backend : s.backend = n
  /-- Until they are closed at the end, its relays close only by themselves. -/
  fails : k ≤ 3 → s.Fails
  finished : 3 ≤ k → r.isFinished n = true
  closed : 4 ≤ k → ∀ control, (s.relays.side control).closed = true

/-- How many sessions a start that is under way has opened. -/
def Hand.sessions : Hand → Nat
  | .session _ => 1
  | _ => 0

/-- How many entries a start that is under way has made. -/
def Hand.entries : Hand → Nat
  | .session true => 1
  | _ => 0

/-- The client of the session of a number. -/
def Floor.client? (f : Floor β) (n : SessionId) : Option ClientKey :=
  (f.sessions[n]?).map Session.client

namespace Midway

/-- What is **kept** from moment to moment, of a registry and of what is under way beside it: `ends`
says how many cues of its end each session has had that has started. -/
structure Kept (r : Sessions β) (hand : Hand) (ends : List Nat) : Prop where
  latches : r.latches.length = r.world.sessions.length
  sessions : r.world.sessions.length = ends.length + hand.sessions
  entries : r.entries.length = ends.length + hand.entries
  own : ∀ (n : EntryId) (entry : Entry ClientKey), r.entries[n]? = some entry → entry.session = n
  stands : ∀ (n : SessionId) (s : Session), r.world.sessions[n]? = some s →
    s.Stands r n (ends.getD n 0)
  /-- A session is under its key from its registration until it is removed. -/
  bound_iff : ∀ (key : ClientKey) (n : SessionId), (key, n) ∈ r.bound ↔
    n < r.entries.length ∧ ends.getD n 0 ≤ 5 ∧ r.world.client? n = some key
  keys_nodup : r.keys.Nodup
  hand : ∀ (s : Session) (called : Bool), hand = .relays s called → s.Fails

variable {r : Sessions β} {hand : Hand} {ends : List Nat} {n : SessionId} {s : Session} {k : Nat}

theorem getD_of_le (h : ends.length ≤ n) : ends.getD n 0 = 0 := by
  rw [List.getD_eq_getElem?_getD, List.getElem?_eq_none h, Option.getD_none]

theorem getD_of_getElem? (h : ends[n]? = some k) : ends.getD n 0 = k := by
  rw [List.getD_eq_getElem?_getD, h, Option.getD_some]

/-! ## Moments that leave the registry alone -/

/-- Relays may go on by themselves at any moment of an end. -/
theorem Kept.refloor (h : Kept r hand ends) (f : Floor β) (hf : r.world.Evolves f) :
    Kept { r with world := f } hand ends := by
  have hwas : ∀ (n : SessionId) (s' : Session), f.sessions[n]? = some s' →
      ∃ s, r.world.sessions[n]? = some s ∧ s.Follows s' ∧ (s.Fails → s'.Fails) := by
    intro n s' hs'
    have hlt : n < r.world.sessions.length := hf.length ▸ (List.getElem?_eq_some_iff.mp hs').1
    obtain ⟨s'', hs'', hfollows⟩ := hf.sessions n _ (List.getElem?_eq_getElem hlt)
    obtain rfl := Option.some.inj (hs'.symm.trans hs'')
    exact ⟨_, List.getElem?_eq_getElem hlt, hfollows⟩
  refine { h with
    latches := h.latches.trans hf.length.symm
    sessions := hf.length.trans h.sessions
    stands := ?stands
    bound_iff := ?bound_iff }
  case stands =>
    intro n s' hs'
    obtain ⟨s, hs, hfollows, hfails⟩ := hwas n s' hs'
    have hstands := h.stands n s hs
    exact ⟨hfollows.backend.trans hstands.backend, fun hk => hfails (hstands.fails hk),
      hstands.finished, fun hk control => hfollows.closed control (hstands.closed hk control)⟩
  case bound_iff =>
    intro key n
    have hclient : f.client? n = r.world.client? n := by
      cases hs : r.world.sessions[n]? with
      | none =>
        have hnone : f.sessions[n]? = none := by
          rw [List.getElem?_eq_none_iff, hf.length]
          exact List.getElem?_eq_none_iff.mp hs
        rw [Floor.client?, Floor.client?, hs, hnone]
      | some s =>
        obtain ⟨s', hs', hfollows, -⟩ := hf.sessions n s hs
        rw [Floor.client?, Floor.client?, hs, hs', Option.map_some, Option.map_some, hfollows.client]
    exact hclient ▸ h.bound_iff key n

/-- A start has something else in hand, but no other session. -/
theorem Kept.rehand (h : Kept r hand ends) (hand' : Hand) (hsessions : hand'.sessions = hand.sessions)
    (hentries : hand'.entries = hand.entries)
    (hfails : ∀ s called, hand' = .relays s called → s.Fails) : Kept r hand' ends :=
  { h with sessions := hsessions ▸ h.sessions, entries := hentries ▸ h.entries, hand := hfails }

/-- A backend may be over at any moment of an end. -/
theorem Kept.finish (h : Kept r hand ends) (w : WorkerId) : Kept (r.finish w).2 hand ends := by
  refine ⟨by simpa using h.latches, by simpa using h.sessions, by simpa using h.entries,
    by simpa using h.own, ?_, by simpa using h.bound_iff, by simpa [keys] using h.keys_nodup, h.hand⟩
  intro n s hs
  have hstands := h.stands n s (by simpa using hs)
  exact ⟨hstands.backend, hstands.fails,
    fun hk => isFinished_finish_of_isFinished (hstands.finished hk), hstands.closed⟩

/-! ## Moments of a start -/

/-- One session more, with a backend of its own and under no key yet. -/
theorem Kept.openSession {called : Bool} (h : Kept r (.relays s called) ends) (latch : Latch) :
    Kept (r.withSession latch { s with backend := r.latches.length }) (.session false) ends := by
  have hsessions : r.world.sessions.length = ends.length := h.sessions
  refine {
    latches := ?latches
    sessions := ?sessions
    entries := h.entries
    own := h.own
    stands := ?stands
    bound_iff := ?bound_iff
    keys_nodup := h.keys_nodup
    hand := fun _ _ => Hand.noConfusion }
  case latches =>
    simp [withSession, hire, h.latches]
  case sessions =>
    simp [withSession, hsessions, Hand.sessions]
  case stands =>
    intro n t ht
    by_cases hn : n = r.world.sessions.length
    · subst hn
      obtain rfl := Option.some.inj ((getElem?_withSession_self latch).symm.trans ht)
      rw [getD_of_le (Nat.le_of_eq hsessions.symm)]
      exact ⟨h.latches, fun _ => h.hand s called rfl, fun hk => absurd hk (by decide),
        fun hk => absurd hk (by decide)⟩
    · have hold : r.world.sessions[n]? = some t := (getElem?_concat_of_ne hn).symm.trans ht
      have hstands := h.stands n t hold
      refine ⟨hstands.backend, hstands.fails, fun hk => ?_, hstands.closed⟩
      exact (isFinished_hire_of_lt latch
        (h.latches ▸ (List.getElem?_eq_some_iff.mp hold).1)).trans (hstands.finished hk)
  case bound_iff =>
    intro key n
    refine (h.bound_iff key n).trans (and_congr_right fun hn => and_congr_right fun _ => ?_)
    have hlt : n < r.world.sessions.length := by
      rw [hsessions]
      exact Nat.lt_of_lt_of_eq hn h.entries
    rw [Floor.client?, Floor.client?, getElem?_withSession_of_lt latch hlt]

/-- The latest session is put under its key. -/
theorem Kept.register [Backend β] (h : Kept r (.session false) ends)
    (hlatest : r.world.sessions[ends.length]? = some s) (hfree : s.client ∉ r.keys) :
    Kept (r.entered Session.contract s.client ends.length) (.session true) ends := by
  have hentries : r.entries.length = ends.length := h.entries
  have hlatches :
      (r.entered Session.contract s.client ends.length).latches.length = r.latches.length :=
    length_latches_observeAll
  have hfinished : ∀ w, (r.entered Session.contract s.client ends.length).isFinished w =
      r.isFinished w := fun w => (isFinished_congr rfl w).trans isFinished_observeAll
  have hfiled : (r.entered Session.contract s.client ends.length).entries = r.entries ++ [_] := rfl
  have hbound : (r.entered Session.contract s.client ends.length).bound =
      r.bound ++ [(s.client, ends.length)] := by rw [← hentries]; rfl
  have hkeys : (r.enlisted Session.contract s.client ends.length).keys.Nodup :=
    keys_nodup_enlisted h.keys_nodup hfree
  refine {
    latches := hlatches.trans h.latches
    sessions := h.sessions
    entries := ?entries
    own := ?own
    stands := ?stands
    bound_iff := ?bound_iff
    keys_nodup := hkeys
    hand := fun _ _ => Hand.noConfusion }
  case entries =>
    simp [hfiled, hentries, Hand.entries]
  case own =>
    intro m entry he
    by_cases hm : m = r.entries.length
    · subst hm
      obtain rfl := Option.some.inj ((List.getElem?_concat_length ..).symm.trans he)
      exact hentries.symm
    · exact h.own m entry ((getElem?_concat_of_ne hm).symm.trans he)
  case stands =>
    intro m t ht
    have hstands := h.stands m t ht
    exact ⟨hstands.backend, hstands.fails, fun hk => (hfinished m).trans (hstands.finished hk),
      hstands.closed⟩
  case bound_iff =>
    intro key m
    have hclient : r.world.client? ends.length = some s.client := by
      rw [Floor.client?, hlatest, Option.map_some]
    have hworld : (r.entered Session.contract s.client ends.length).world = r.world := rfl
    simp only [hworld, hbound, hfiled, List.mem_append, List.mem_singleton, Prod.mk.injEq, List.length_append,
      List.length_singleton, h.bound_iff, hentries]
    by_cases hm : m = ends.length
    · subst hm
      simp [hclient, eq_comm]
    · have hlt : m < ends.length + 1 ↔ m < ends.length :=
        Nat.lt_succ_iff_lt_or_eq.trans (or_iff_left hm)
      rw [hlt, or_iff_left fun hnew => hm hnew.2]

theorem getD_concat_zero (ends : List Nat) (n : SessionId) :
    (ends ++ [0]).getD n 0 = ends.getD n 0 := by
  rcases Nat.lt_trichotomy n ends.length with hn | rfl | hn
  · simp [List.getElem?_append_left hn]
  · simp
  · rw [getD_of_le (Nat.le_of_lt hn), getD_of_le (by simpa using Nat.succ_le_of_lt hn)]

/-- A session that has started has had no cue of its end. -/
theorem Kept.begin (h : Kept r (.session true) ends) : Kept r .empty (ends ++ [0]) := by
  refine {
    latches := h.latches
    sessions := ?sessions
    entries := ?entries
    own := h.own
    stands := ?stands
    bound_iff := ?bound_iff
    keys_nodup := h.keys_nodup
    hand := fun _ _ => Hand.noConfusion }
  case sessions =>
    simpa [Hand.sessions] using h.sessions
  case entries =>
    simpa [Hand.entries] using h.entries
  case stands =>
    simpa only [getD_concat_zero] using h.stands
  case bound_iff =>
    simpa only [getD_concat_zero] using h.bound_iff

/-! ## Cues -/

/-- To take an end one cue further leaves all others where they are. -/
theorem getD_set (h : ends[n]? = some k) (k' : Nat) (m : SessionId) :
    (ends.set n k').getD m 0 = if m = n then k' else ends.getD m 0 := by
  have hlt := (List.getElem?_eq_some_iff.mp h).1
  by_cases hm : m = n
  · subst hm
    simp [hlt]
  · simp [hm, Ne.symm hm]

/-- A session whose end has had one cue more stands there. -/
theorem Kept.stands_cue [Backend β] (h : Kept r hand ends) {late : Bool} {cue : Cue}
    (hhad : ends[n]? = some k) (hsession : r.world.sessions[n]? = some s)
    (hnext : (Cue.course late)[k]? = some cue)
    (hawaited : ∀ done, cue = .asked done → r.isFinished s.backend = done) {s' : Session}
    (hs' : (cue.perform n s r).world.sessions[n]? = some s') :
    s'.Stands (cue.perform n s r) n (k + 1) := by
  have hstands := h.stands n s hsession
  rw [getD_of_getElem? hhad] at hstands
  obtain ⟨hsilenced, -, -, hasked⟩ := Cue.place hnext
  have hfinished : 3 ≤ k + 1 → (cue.perform n s r).isFinished n = true := by
    intro hk
    rw [Cue.isFinished_perform]
    rcases Nat.lt_or_eq_of_le hk with hk | hk
    · exact hstands.finished (Nat.le_of_lt_succ hk)
    · rw [← hstands.backend]
      exact hawaited true (hasked (Nat.succ.inj hk).symm)
  rw [Cue.sessions_perform] at hs'
  by_cases hcue : cue = .silenced
  · obtain rfl := hsilenced.mp hcue
    rw [if_pos hcue, List.getElem?_set_self (List.getElem?_eq_some_iff.mp hsession).1] at hs'
    obtain rfl := Option.some.inj hs'
    exact ⟨hstands.backend, fun hk => absurd hk (by decide), hfinished,
      fun _ => Session.closed_silenced s _⟩
  · rw [if_neg hcue] at hs'
    obtain rfl := Option.some.inj (hsession.symm.trans hs')
    refine ⟨hstands.backend, fun hk => hstands.fails (Nat.le_of_succ_le hk), hfinished, fun hk => ?_⟩
    rcases Nat.lt_or_eq_of_le hk with hk | hk
    · exact hstands.closed (Nat.le_of_lt_succ hk)
    · exact absurd (hsilenced.mpr (Nat.succ.inj hk).symm) hcue

/-- No cue of an end changes whose a session is. -/
theorem client?_perform [Backend β] (cue : Cue) (hsession : r.world.sessions[n]? = some s)
    (m : SessionId) : (cue.perform n s r).world.client? m = r.world.client? m := by
  rw [Floor.client?, Cue.sessions_perform]
  split
  · rw [List.getElem?_set]
    by_cases hm : n = m
    · subst hm
      rw [if_pos rfl, if_pos (List.getElem?_eq_some_iff.mp hsession).1, Floor.client?, hsession]
      rfl
    · rw [if_neg hm]
      rfl
  · rfl

/-- A session that has started and has not been removed is under its client's key. -/
theorem Kept.mem_bound (h : Kept r hand ends) (hhad : ends[n]? = some k) (hk : k ≤ 5)
    (hsession : r.world.sessions[n]? = some s) : (s.client, n) ∈ r.bound := by
  refine (h.bound_iff _ n).mpr ⟨?_, ?_, ?_⟩
  · rw [h.entries]
    exact Nat.lt_of_lt_of_le (List.getElem?_eq_some_iff.mp hhad).1 (Nat.le_add_right ..)
  · rwa [getD_of_getElem? hhad]
  · rw [Floor.client?, hsession, Option.map_some]

/-- Whoever looks under the key of a session finds it there. -/
theorem Kept.lookup_eq (h : Kept r hand ends) (hb : (s.client, n) ∈ r.bound) :
    r.lookup s.client = some n := by
  have hlt := ((h.bound_iff _ n).mp hb).1
  rw [Registry.lookup, entry?, (boundTo?_eq_some_iff h.keys_nodup).mpr hb, Option.bind_some,
    List.getElem?_eq_getElem hlt, Option.map_some, h.own n _ (List.getElem?_eq_getElem hlt)]

/-- A session that has come to its removal is under its key, and is taken from there. -/
theorem Kept.leave_eq (h : Kept r hand ends) (hb : (s.client, n) ∈ r.bound) :
    Session.leave n s.client r =
      { r with bound := r.bound.filter (·.1 ≠ s.client), world := r.world.note (.removed n) } :=
  Session.leave_of_lookup (h.lookup_eq hb)

/-- A session that is taken from under its key was under no other. -/
theorem Kept.length_bound (h : Kept r hand ends) (hb : (s.client, n) ∈ r.bound) :
    r.bound.length = (Session.leave n s.client r).bound.length + 1 := by
  have hcount : r.bound.countP (fun b => b.1 == s.client) = 1 := by
    have hmem : s.client ∈ r.keys := List.mem_map.mpr ⟨_, hb, rfl⟩
    rw [← List.count_eq_one_of_mem h.keys_nodup hmem, keys, List.count, List.countP_map]
    rfl
  rw [h.leave_eq hb, List.length_eq_countP_add_countP (fun b => b.1 == s.client), hcount,
    List.countP_eq_length_filter, Nat.add_comm]
  simp

/-- What is under keys after a cue. -/
theorem Kept.bound_cue [Backend β] (h : Kept r hand ends) {late : Bool} {cue : Cue}
    (hhad : ends[n]? = some k) (hsession : r.world.sessions[n]? = some s)
    (hnext : (Cue.course late)[k]? = some cue) (key : ClientKey) (m : SessionId) :
    (key, m) ∈ (cue.perform n s r).bound ↔ m < r.entries.length ∧
      (ends.set n (k + 1)).getD m 0 ≤ 5 ∧ r.world.client? m = some key := by
  obtain ⟨-, -, hremoved, -⟩ := Cue.place hnext
  rw [getD_set hhad]
  by_cases hcue : cue = .removed
  · obtain rfl := hremoved.mp hcue
    have hb := h.mem_bound hhad (Nat.le_refl 5) hsession
    rw [hcue, Cue.perform, h.leave_eq hb, List.mem_filter, h.bound_iff]
    by_cases hm : m = n
    · -- The session itself is under no key any more: it was under no other.
      subst hm
      have hclient : r.world.client? m = some s.client := by
        rw [Floor.client?, hsession, Option.map_some]
      simp only [hclient, if_pos, Option.some.injEq, decide_eq_true_eq]
      constructor
      · rintro ⟨⟨-, -, rfl⟩, hne⟩
        exact absurd rfl hne
      · rintro ⟨-, hsix, -⟩
        exact absurd hsix (by decide)
    · -- Any other session is under another key.
      rw [if_neg hm]
      refine ⟨And.left, fun hmem => ⟨hmem, decide_eq_true ?_⟩⟩
      rintro rfl
      exact hm (congrArg Prod.snd
        (List.inj_on_of_nodup_map h.keys_nodup ((h.bound_iff _ m).mpr hmem) hb rfl))
  · rw [Cue.bound_perform _ _ _ _ hcue, h.bound_iff]
    by_cases hm : m = n
    · subst hm
      have hne : k ≠ 5 := mt hremoved.mpr hcue
      rw [if_pos rfl, getD_of_getElem? hhad]
      have hsame : k ≤ 5 ↔ k + 1 ≤ 5 := by omega
      rw [hsame]
    · rw [if_neg hm]

/-- **A cue keeps everything**, and takes a session from under its key if it is removed. -/
theorem Kept.cue [Backend β] (h : Kept r hand ends) {late : Bool} {cue : Cue}
    (hhad : ends[n]? = some k) (hsession : r.world.sessions[n]? = some s)
    (hnext : (Cue.course late)[k]? = some cue)
    (hawaited : ∀ done, cue = .asked done → r.isFinished s.backend = done) :
    Kept (cue.perform n s r) hand (ends.set n (k + 1)) := by
  have hsessions : (cue.perform n s r).world.sessions.length = r.world.sessions.length := by
    rw [Cue.sessions_perform]
    split <;> simp
  refine {
    latches := ?latches
    sessions := ?sessions
    entries := ?entries
    own := ?own
    stands := ?stands
    bound_iff := ?bound_iff
    keys_nodup := ?keys_nodup
    hand := h.hand }
  case latches =>
    rw [Cue.latches_perform, hsessions]
    exact h.latches
  case sessions =>
    rw [hsessions, List.length_set]
    exact h.sessions
  case entries =>
    rw [Cue.length_entries_perform, List.length_set]
    exact h.entries
  case own =>
    intro m entry he
    obtain ⟨old, hold, heq⟩ := Cue.session_perform cue r n s he
    exact heq.trans (h.own m old hold)
  case stands =>
    intro m t ht
    rw [getD_set hhad]
    by_cases hm : m = n
    · subst hm
      rw [if_pos rfl]
      exact h.stands_cue hhad hsession hnext hawaited ht
    · rw [if_neg hm]
      have hold : r.world.sessions[m]? = some t := by
        rw [Cue.sessions_perform] at ht
        split at ht
        · rwa [List.getElem?_set_ne (Ne.symm hm)] at ht
        · exact ht
      have hstands := h.stands m t hold
      exact ⟨hstands.backend, hstands.fails,
        fun hk => (Cue.isFinished_perform ..).trans (hstands.finished hk), hstands.closed⟩
  case bound_iff =>
    intro key m
    rw [h.bound_cue hhad hsession hnext, Cue.length_entries_perform, client?_perform cue hsession]
  case keys_nodup =>
    by_cases hcue : cue = .removed
    · obtain rfl := (Cue.place hnext).2.2.1.mp hcue
      have hsub : (cue.perform n s r).keys.Sublist r.keys := by
        rw [hcue, Cue.perform, h.leave_eq (h.mem_bound hhad (Nat.le_refl 5) hsession)]
        exact List.filter_sublist.map _
      exact h.keys_nodup.sublist hsub
    · rw [keys, Cue.bound_perform _ _ _ _ hcue]
      exact h.keys_nodup

/-! ## Every moment -/

/-- **Every moment keeps it.** -/
theorem Kept.step [Backend β] {y z : Midway β} {moment : Moment}
    (h : Kept y.registry y.hand y.ends) (hs : Step y moment z) : Kept z.registry z.hand z.ends := by
  cases hs with
  | launched hhand hprepared hallocated =>
    rw [hhand] at h
    refine (h.refloor _ (.of_eq (by rfl))).rehand _ rfl rfl ?_
    rintro s called heq
    cases heq
    exact (Proxy.allocated_of_search (p := y.proxy) hallocated).fails
  | connecting hhand =>
    rw [hhand] at h
    refine (h.refloor _ (.of_eq (by rfl))).rehand _ rfl rfl ?_
    rintro s called heq
    cases heq
    exact h.hand _ _ rfl
  | given_up hhand =>
    rw [hhand] at h
    exact (h.refloor _ (.of_eq (by rfl))).rehand .empty rfl rfl fun _ _ => Hand.noConfusion
  | @opened s url done backends hhand =>
    rw [hhand] at h
    exact (h.refloor { y.world with backends := backends } (.of_eq rfl)).openSession _
  | registered hhand hnumber hlatest hfree =>
    subst hnumber
    rw [hhand] at h
    exact (h.register hlatest hfree).refloor _ (.of_eq rfl)
  | started hhand hnumber =>
    rw [hhand] at h
    exact (h.refloor _ (.of_eq (by rfl))).begin
  | finished => exact h.finish _
  | cue hhad hsession hnext hawaited =>
    obtain ⟨late, hnext⟩ := hnext
    exact h.cue hhad hsession hnext hawaited
  | stirred hevolves => exact h.refloor _ hevolves
  | hand_stirred hhand hfollows hfails =>
    rw [hhand] at h
    refine h.rehand _ rfl rfl ?_
    rintro s called heq
    cases heq
    exact hfails (h.hand _ _ rfl)

/-- A proxy without sessions has no end under way. -/
theorem kept_idle [Backend β] (basis : Basis) (host : Host) (backends : β) :
    Kept (Proxy.idle basis host backends).registry .empty [] := by
  refine ⟨rfl, rfl, rfl, ?_, ?_, ?_, List.nodup_nil, fun _ _ => Hand.noConfusion⟩ <;>
    simp [Proxy.idle, Registry.empty]

/-- Every run keeps the ends of sessions to their course. -/
theorem Kept.run [Backend β] {y z : Midway β} {trace : List Moment}
    (h : Kept y.registry y.hand y.ends) (hr : Run Step y trace z) :
    Kept z.registry z.hand z.ends := by
  induction hr with
  | here => exact h
  | next _ hlast ih => exact ih.step hlast

end Midway

end MediaProxy
