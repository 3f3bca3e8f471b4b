import Mathlib.Data.List.Nodup
import MediaProxy.Proofs.Proxy.Floor

/-!
# Orderly registries of sessions

In the registry of the proxy's sessions everything has one number: an entry, its session and the
session's backend (`Orderly`). An entry is under its key exactly until it is over, and by then its
backend is done and its relays are closed. Every step of an entry's end keeps it so, keeps account
of the sockets, and touches one entry only (`Aside`): what is due in a settled registry after
something has happened to one session is a step of that session, so settling leaves all others as
they were (`settle_aside`).
-/

namespace MediaProxy

open Registry

/-! ## The contract of sessions -/

namespace Session

variable {β : Type} [Backend β] {f : Floor β} {n : SessionId} {s : Session}

/-- The one worker of a session is its backend. -/
theorem workers_eq (h : f.sessions[n]? = some s) : contract.workers f n = [s.backend] := by
  simp [contract, h]

theorem workers_congr {f' : Floor β} (h : f'.sessions = f.sessions) :
    contract.workers f' n = contract.workers f n := by
  simp [contract, h]

/-- The world of a session that is about to be taken from under its key. -/
def floorAfter (n : SessionId) (s : Session) (r : Sessions β) : Floor β :=
  (s.silence n (r.isFinished s.backend) (r.world.halt s.backend (r.isFinished s.backend))).note
    (.ended n (r.isFinished s.backend) true (r.lookup s.client = some n))

omit [Backend β] in
/-- Whoever is told of the end of a session whose relays have been closed sees them closed. -/
theorem farewell_silenced {r : Sessions β} (h : r.world.sessions[n]? = some s) (finished : Bool) :
    farewell n { r with world := s.silence n finished r.world } =
      .ended n (r.isFinished s.backend) true (r.lookup s.client = some n) := by
  have hsession : (s.silence n finished r.world).sessions[n]? = some (s.silenced r.world.site) :=
    List.getElem?_set_self (List.getElem?_eq_some_iff.mp h).1
  have hrtp : (s.silenced r.world.site).relays.rtp.closed = true := closed_silenced s _ false
  have hrtcp : (s.silenced r.world.site).relays.rtcp.closed = true := closed_silenced s _ true
  simp only [farewell, hsession, hrtp, hrtcp]
  rfl

/-- The cleanup of a session silences it, announces its end, and takes it from under its key. -/
theorem cleanup_eq {r : Sessions β} (h : r.world.sessions[n]? = some s) : cleanup n r =
    (.returns none, leave n s.client { r with world := floorAfter n s r }) := by
  have hfarewell := farewell_silenced (n := n) (s := s)
    (r := { r with world := r.world.halt s.backend (r.isFinished s.backend) })
    (by rwa [Floor.sessions_halt]) (r.isFinished s.backend)
  rw [cleanup, h]
  dsimp only at hfarewell ⊢
  rw [hfarewell]
  rfl

/-- The cleanup of a session changes no other one. -/
theorem sessions_floorAfter (r : Sessions β) : (floorAfter n s r).sessions =
    r.world.sessions.set n (s.silenced r.world.site) := by
  simp [floorAfter, Floor.note, sessions_silence]

theorem getElem?_floorAfter {r : Sessions β} (h : r.world.sessions[n]? = some s) (m : SessionId) :
    (floorAfter n s r).sessions[m]? =
      if n = m then some (s.silenced r.world.site) else r.world.sessions[m]? := by
  rw [sessions_floorAfter]
  exact Floor.getElem?_setSession h _

/-- The cleanup of a session gives back the sockets of its relays, and no others. -/
theorem holds_floorAfter {r : Sessions β} {others targets : List SocketAddress}
    (hf : r.world.Holds others targets) (h : r.world.sessions[n]? = some s) :
    (floorAfter n s r).Holds others targets := by
  have hf' : (r.world.halt s.backend (r.isFinished s.backend)).Holds others targets := by
    simpa [Floor.Holds, Floor.relays] using hf
  exact holds_silence hf' (by simpa using h) (r.isFinished s.backend)

/-- The cleanup of a session changes nobody's workers. -/
theorem workers_floorAfter {r : Sessions β} (h : r.world.sessions[n]? = some s) (m : SessionId) :
    contract.workers (floorAfter n s r) m = contract.workers r.world m := by
  simp only [contract, getElem?_floorAfter h]
  by_cases hm : n = m
  · subst hm
    simp [h, silenced]
  · simp [hm]

section Leaving

omit [Backend β]

variable {r : Sessions β} {client : ClientKey}

/-- A session leaves its key if it is the one there. -/
theorem leave_of_lookup (h : r.lookup client = some n) : leave n client r =
    { r with bound := r.bound.filter (·.1 ≠ client), world := r.world.note (.removed n) } := by
  simp [leave, forget, h]

/-- To leave is to be forgotten, and to write that down. -/
theorem leave_cases (n : SessionId) (client : ClientKey) (r : Sessions β) :
    leave n client r = (r.forget client n).2 ∨
      leave n client r = { (r.forget client n).2 with world := r.world.note (.removed n) } := by
  by_cases h : r.lookup client = some n
  · exact .inr (by simp [leave, forget, h])
  · exact .inl (by simp [leave, forget, h])

@[simp] theorem entries_leave : (leave n client r).entries = r.entries := by
  rcases leave_cases n client r with h | h <;> simp [h]

@[simp] theorem latches_leave : (leave n client r).latches = r.latches := by
  rcases leave_cases n client r with h | h <;> simp [h]

@[simp] theorem sessions_leave : (leave n client r).world.sessions = r.world.sessions := by
  rcases leave_cases n client r with h | h <;> simp [h, Floor.note]

@[simp] theorem sessions_announce (n : SessionId) (r : Sessions β) :
    (announce n r).sessions = r.world.sessions := by
  simp only [announce]
  split <;> rfl

@[simp] theorem site_announce (n : SessionId) (r : Sessions β) :
    (announce n r).site = r.world.site := by
  simp only [announce]
  split <;> rfl

end Leaving

/-- What the sessions undertake never changes the workers of one. -/
theorem steady_contract : (contract : Contract ClientKey (Floor β)).Steady where
  start n r _ := workers_congr (sessions_announce n r)
  halt _ _ _ _ := workers_congr (Floor.sessions_halt ..)
  cleanup n r := by
    cases h : r.world.sessions[n]? with
    | none =>
      simp only [contract, cleanup, h]
      exact .refl
    | some s =>
      have hchange : Deed contract r { r with world := floorAfter n s r } :=
        .change _ fun entry _ => workers_floorAfter h entry.session
      simp only [contract, cleanup_eq h]
      have hforget := Relation.ReflTransGen.tail (.single hchange) (Deed.forget s.client n)
      rcases leave_cases n s.client { r with world := floorAfter n s r } with hleave | hleave
      · rw [hleave]
        exact hforget
      · rw [hleave]
        refine hforget.tail (.change _ fun _ _ => workers_congr ?_)
        rw [world_forget]
        rfl

/-- What the sessions undertake leaves the registry alone, but for taking sessions out of it. -/
theorem quiet_contract : (contract : Contract ClientKey (Floor β)).Quiet := by
  intro n r
  cases h : r.world.sessions[n]? with
  | none => simp only [contract, cleanup, h]
  | some s => simp only [contract, cleanup_eq h, entries_leave]

end Session

/-! ## Orderly registries -/

namespace Registry

variable {β : Type} [Backend β] {r r' : Sessions β} {n m : SessionId} {entry : Entry ClientKey}
  {s : Session} {key : ClientKey} {others targets : List SocketAddress}

/-- An entry and its session **match**. -/
structure Matches (r : Sessions β) (n : SessionId) (entry : Entry ClientKey) (s : Session) : Prop where
  session : entry.session = n
  backend : s.backend = n
  client : s.client = entry.key
  /-- What has been triggered has its backend done, since a backend that is asked to stop is done.
  -/
  asked : entry.stage ≠ .armed → r.isFinished n = true
  concluded : ∀ body, entry.stage = .concluded body →
    body = .returns none ∧ ∀ control, (s.relays.side control).closed = true
  /-- Before that, relays close only by themselves. -/
  fails : entry.stage.gate.isFired = false → s.Fails

/-- An **orderly** registry. -/
structure Orderly (r : Sessions β) : Prop where
  sound : Sound Session.contract r
  latches : r.latches.length = r.entries.length
  sessions : r.world.sessions.length = r.entries.length
  matched : ∀ n entry, r.entries[n]? = some entry →
    ∃ s, r.world.sessions[n]? = some s ∧ Matches r n entry s
  bound_iff : ∀ key n, (key, n) ∈ r.bound ↔
    ∃ entry, r.entries[n]? = some entry ∧ entry.key = key ∧ entry.stage.gate.isFired = false
  keys_nodup : r.keys.Nodup

/-- A registry that differs from another in some sessions only. -/
structure Aside (ns : List SessionId) (r r' : Sessions β) : Prop where
  entries : ∀ m, m ∉ ns → r'.entries[m]? = r.entries[m]?
  sessions : ∀ m, m ∉ ns → r'.world.sessions[m]? = r.world.sessions[m]?
  finished : ∀ m, m ∉ ns → r'.isFinished m = r.isFinished m

omit [Backend β] in
theorem Aside.refl (ns : List SessionId) (r : Sessions β) : Aside ns r r :=
  ⟨fun _ _ => rfl, fun _ _ => rfl, fun _ _ => rfl⟩

omit [Backend β] in
theorem Aside.trans {ns ms : List SessionId} {r'' : Sessions β} (h : Aside ns r r')
    (h' : Aside ms r' r'') :
    Aside (ns ++ ms) r r'' := by
  refine ⟨fun m hm => ?_, fun m hm => ?_, fun m hm => ?_⟩ <;> rw [List.mem_append, not_or] at hm
  · exact (h'.entries m hm.2).trans (h.entries m hm.1)
  · exact (h'.sessions m hm.2).trans (h.sessions m hm.1)
  · exact (h'.finished m hm.2).trans (h.finished m hm.1)

omit [Backend β] in
/-- Two changes of the same sessions. -/
theorem Aside.next {ns : List SessionId} {r'' : Sessions β} (h : Aside ns r r')
    (h' : Aside ns r' r'') : Aside ns r r'' := by
  refine ⟨?_, ?_, ?_⟩ <;> intro m hm
  · exact (h'.entries m hm).trans (h.entries m hm)
  · exact (h'.sessions m hm).trans (h.sessions m hm)
  · exact (h'.finished m hm).trans (h.finished m hm)

/-- What is due: a step of an entry that is not over though its backend is done. -/
theorem Orderly.isDue_iff (h : Orderly r) (he : r.entries[n]? = some entry) :
    r.isDue entry = true ↔ entry.stage.gate.isFired = false ∧ r.isFinished n = true := by
  obtain ⟨s, hs, hm⟩ := h.matched n entry he
  have hmem := List.mem_of_getElem? he
  have hworkers : Session.contract.workers r.world entry.session = [n] := by
    rw [hm.session, Session.workers_eq hs, hm.backend]
  cases hstage : entry.stage with
  | armed =>
    rw [h.sound.watchful.isDue_armed_iff hmem hstage, hworkers]
    simp [Stage.gate, Gate.isFired]
  | stopping =>
    rw [h.sound.watchful.isDue_stopping_iff hmem hstage, hworkers]
    simp [Stage.gate, Gate.isFired]
  | concluded body =>
    rw [not_isDue_concluded hstage]
    simp [Stage.gate, Gate.isFired]

/-- In a settled registry an entry is over or it is armed and its backend is at work. -/
theorem Orderly.armed (h : Orderly r) (hr : Settled r) (he : r.entries[n]? = some entry)
    (hstage : entry.stage.gate.isFired = false) : entry.stage = .armed ∧ r.isFinished n = false := by
  obtain ⟨s, -, hm⟩ := h.matched n entry he
  have hbusy : r.isFinished n = false := by
    rw [← Bool.not_eq_true]
    intro hf
    have := (h.isDue_iff he).mpr ⟨hstage, hf⟩
    rw [hr entry (List.mem_of_getElem? he)] at this
    exact Bool.false_ne_true this
  refine ⟨?_, hbusy⟩
  by_contra hne
  rw [hm.asked hne] at hbusy
  exact Bool.true_eq_false.mp hbusy

/-- Where all is settled, a session whose backend is over has ended. -/
theorem Orderly.isFired_of_finished (h : Orderly r) (hr : Settled r) (he : r.entries[n]? = some entry)
    (hf : r.isFinished n = true) : entry.stage.gate.isFired = true := by
  by_contra hne
  rw [Bool.not_eq_true] at hne
  rw [(h.armed hr he hne).2] at hf
  exact Bool.false_ne_true hf

/-! ## Keys -/

/-- Under a key there is the session of the entry that is bound to it. -/
theorem Orderly.lookup_eq_some_iff (h : Orderly r) : r.lookup key = some n ↔ (key, n) ∈ r.bound := by
  rw [← boundTo?_eq_some_iff h.keys_nodup, lookup, entry?]
  cases hlookup : r.boundTo? key with
  | none => simp
  | some m =>
    obtain ⟨entry, he, -, -⟩ := (h.bound_iff key m).mp (mem_bound_of_boundTo? hlookup)
    obtain ⟨s, -, hm⟩ := h.matched m entry he
    simp [he, hm.session]

/-! ## The two steps -/

/-- To trigger the end of a session is to ask its backend to stop, which it does. -/
theorem Orderly.trigger_eq (h : Orderly r) (he : r.entries[n]? = some entry) :
    trigger Session.contract n r =
      (Registry.finish
        { r.setStage n .stopping with world := r.world.halt n (r.isFinished n) } n).2 := by
  obtain ⟨s, hs, hm⟩ := h.matched n entry he
  rw [Registry.trigger_eq he, hm.session, Session.workers_eq hs, hm.backend, List.foldl_cons,
    List.foldl_nil, halt_eq]
  rfl

/-- A registry stays orderly when the end of a session is triggered. -/
theorem Orderly.trigger (h : Orderly r) (he : r.entries[n]? = some entry)
    (hs : entry.stage = .armed) :
    Orderly (trigger Session.contract n r) := by
  have hlt : n < r.latches.length := h.latches ▸ (List.getElem?_eq_some_iff.mp he).1
  have hentries := entries_trigger (c := Session.contract) he
  -- A backend is over as soon as it has been asked to stop.
  have hfinished : ∀ m, (Registry.trigger Session.contract n r).isFinished m =
      (r.isFinished m || decide (m = n)) := by
    intro m
    rw [h.trigger_eq he, isFinished_finish]
    simp [isFinished, setStage, hlt]
  refine {
    sound := h.sound.trigger Session.steady_contract n
    latches := ?latches
    sessions := ?sessions
    matched := ?matched
    bound_iff := ?bound_iff
    keys_nodup := ?keys_nodup }
  case latches =>
    rw [hentries, length_setStage, h.trigger_eq he, length_latches_finish]
    exact h.latches
  case sessions =>
    rw [hentries, length_setStage, h.trigger_eq he, world_finish, Floor.sessions_halt]
    exact h.sessions
  case matched =>
    intro m entry' he'
    rw [hentries, getElem?_setStage, Option.map_eq_some_iff] at he'
    obtain ⟨old, hold, rfl⟩ := he'
    obtain ⟨s, hsession, hm⟩ := h.matched m old hold
    refine ⟨s, by rw [h.trigger_eq he, world_finish, Floor.sessions_halt]; exact hsession, ?_⟩
    by_cases hn : n = m
    · subst hn
      obtain rfl : entry = old := Option.some.inj (he.symm.trans hold)
      rw [if_pos rfl]
      exact ⟨hm.session, hm.backend, hm.client, fun _ => by simp [hfinished], fun _ h => by simp at h,
        fun _ => hm.fails (by simp [hs, Stage.gate, Gate.isFired])⟩
    · rw [if_neg hn]
      exact ⟨hm.session, hm.backend, hm.client, fun h' => by simp [hfinished, hm.asked h'],
        hm.concluded, hm.fails⟩
  case bound_iff =>
    -- A trigger unbinds nothing, and an entry that is stopping has not ended yet.
    intro key m
    rw [bound_trigger, h.bound_iff key m, hentries, getElem?_setStage]
    by_cases hn : n = m
    · subst hn
      simp [he, hs, Stage.gate, Gate.isFired]
    · simp [hn]
  case keys_nodup =>
    rw [keys, bound_trigger]
    exact h.keys_nodup

/-- Triggering the end of a session leaves all others as they are. -/
theorem Orderly.aside_trigger (h : Orderly r) (he : r.entries[n]? = some entry) :
    Aside [n] r (Registry.trigger Session.contract n r) := by
  refine ⟨fun m hm => ?_, fun m hm => ?_, fun m hm => ?_⟩ <;> rw [List.mem_singleton] at hm
  · rw [entries_trigger he, getElem?_setStage]
    simp [Ne.symm hm]
  · rw [h.trigger_eq he, world_finish, Floor.sessions_halt]
  · rw [h.trigger_eq he, isFinished_finish]
    simp [isFinished, setStage, hm]

/-- Triggering the end of a session leaves all sockets where they are. -/
theorem Orderly.holds_trigger (h : Orderly r) (he : r.entries[n]? = some entry)
    (hf : r.world.Holds others targets) :
    (Registry.trigger Session.contract n r).world.Holds others targets := by
  rw [h.trigger_eq he, world_finish]
  simpa [Floor.Holds, Floor.relays] using hf

/-- The conclusion of a stopping entry: the session is silenced and taken from under its key. -/
theorem Orderly.conclude_eq (h : Orderly r) (he : r.entries[n]? = some entry)
    (hs : entry.stage.gate.isFired = false) (hsession : r.world.sessions[n]? = some s) :
    conclude Session.contract n r = Registry.setStage
      { r with
        world := (Session.floorAfter n s r).note (.removed n)
        bound := r.bound.filter (·.1 ≠ entry.key) } n
      (.concluded (.returns none)) := by
  obtain ⟨s', hs', hm⟩ := h.matched n entry he
  obtain rfl : s = s' := Option.some.inj (hsession.symm.trans hs')
  have hlookup : Registry.lookup { r with world := Session.floorAfter n s r } entry.key = some n :=
    h.lookup_eq_some_iff.mpr ((h.bound_iff _ n).mpr ⟨entry, he, rfl, hs⟩)
  rw [Registry.conclude_eq he, hm.session]
  simp only [Session.contract, Session.cleanup_eq hsession, hm.client, Session.leave_of_lookup hlookup]

/-- A registry stays orderly when a session is concluded. -/
theorem Orderly.conclude (h : Orderly r) (he : r.entries[n]? = some entry)
    (hs : entry.stage = .stopping) :
    Orderly (conclude Session.contract n r) := by
  have hfired : entry.stage.gate.isFired = false := by simp [hs, Stage.gate, Gate.isFired]
  obtain ⟨s, hsession, hm⟩ := h.matched n entry he
  have heq := h.conclude_eq he hfired hsession
  have hsessions := Session.getElem?_floorAfter (n := n) (s := s) hsession
  refine {
    sound := h.sound.conclude Session.steady_contract n
    latches := ?latches
    sessions := ?sessions
    matched := ?matched
    bound_iff := ?bound_iff
    keys_nodup := ?keys_nodup }
  case latches =>
    rw [heq, length_setStage]
    exact h.latches
  case sessions =>
    rw [heq, length_setStage]
    simpa [setStage, Session.sessions_floorAfter] using h.sessions
  case matched =>
    intro m entry' he'
    rw [heq, getElem?_setStage, Option.map_eq_some_iff] at he'
    obtain ⟨old, hold, rfl⟩ := he'
    have hworld : (Registry.conclude Session.contract n r).world.sessions[m]? =
        if n = m then some (s.silenced r.world.site) else r.world.sessions[m]? := by
      rw [heq]
      exact hsessions m
    have hfinished : (Registry.conclude Session.contract n r).isFinished m = r.isFinished m := by
      rw [heq]
      rfl
    by_cases hn : n = m
    · subst hn
      obtain rfl : entry = old := Option.some.inj (he.symm.trans hold)
      refine ⟨s.silenced r.world.site, by rw [hworld, if_pos rfl], ?_⟩
      rw [if_pos rfl]
      exact ⟨hm.session, hm.backend, hm.client, fun _ => hfinished.trans (hm.asked (by simp [hs])),
        fun body hb => ⟨(Stage.concluded.inj hb).symm, Session.closed_silenced s _⟩, fun hf => by cases hf⟩
    · obtain ⟨s', hs', hm'⟩ := h.matched m old hold
      refine ⟨s', by rw [hworld, if_neg hn, hs'], ?_⟩
      rw [if_neg hn]
      exact ⟨hm'.session, hm'.backend, hm'.client, fun h' => hfinished.trans (hm'.asked h'),
        hm'.concluded, hm'.fails⟩
  case bound_iff =>
    intro key m
    have hbound : (key, m) ∈ (Registry.conclude Session.contract n r).bound ↔
        (key, m) ∈ r.bound ∧ key ≠ entry.key := by
      rw [heq]
      simp [setStage]
    have hown : (entry.key, n) ∈ r.bound := (h.bound_iff _ n).mpr ⟨entry, he, rfl, hfired⟩
    rw [hbound, h.bound_iff key m, heq, getElem?_setStage]
    by_cases hn : n = m
    · -- The entry itself is over, and it was under no other key.
      subst hn
      simp only [he, if_pos, Option.map_some, Option.some.injEq, exists_eq_left', Stage.gate,
        Gate.isFired]
      simp only [Bool.true_eq_false, and_false, iff_false, not_and, not_not]
      exact fun h => h.1.symm
    · -- Any other entry is under another key.
      have hne : (key, m) ∈ r.bound → key ≠ entry.key := by
        intro hmem hkey
        subst hkey
        exact hn (congrArg Prod.snd (List.inj_on_of_nodup_map h.keys_nodup hown hmem rfl))
      simp only [hn, if_false, Option.map_id']
      rw [← h.bound_iff key m]
      exact ⟨And.left, fun hmem => ⟨hmem, hne hmem⟩⟩
  case keys_nodup =>
    have hsub : (Registry.conclude Session.contract n r).keys.Sublist r.keys := by
      rw [heq]
      exact List.filter_sublist.map _
    exact h.keys_nodup.sublist hsub

/-- Concluding a session leaves all others as they are. -/
theorem Orderly.aside_conclude (h : Orderly r) (he : r.entries[n]? = some entry)
    (hs : entry.stage = .stopping) : Aside [n] r (Registry.conclude Session.contract n r) := by
  obtain ⟨s, hsession, hm⟩ := h.matched n entry he
  rw [h.conclude_eq he (by simp [hs, Stage.gate, Gate.isFired]) hsession]
  refine ⟨fun m hm => ?_, fun m hm => ?_, fun m hm => rfl⟩ <;> rw [List.mem_singleton] at hm
  · rw [getElem?_setStage]
    simp [Ne.symm hm]
  · exact (Session.getElem?_floorAfter hsession m).trans (if_neg (Ne.symm hm))

/-- Concluding a session gives back the sockets of its relays, and no others. -/
theorem Orderly.holds_conclude (h : Orderly r) (he : r.entries[n]? = some entry)
    (hs : entry.stage = .stopping) (hf : r.world.Holds others targets) :
    (Registry.conclude Session.contract n r).world.Holds others targets := by
  obtain ⟨s, hsession, hm⟩ := h.matched n entry he
  rw [h.conclude_eq he (by simp [hs, Stage.gate, Gate.isFired]) hsession]
  exact Session.holds_floorAfter hf hsession

/-! ## Settling -/

/-- A registry that has gone **onward**: it has the same entries at the same stage or another, and
sessions that follow those that it had. -/
structure Onward (r r' : Sessions β) : Prop where
  entries : ∀ (m : EntryId) (entry : Entry ClientKey), r.entries[m]? = some entry →
    ∃ stage, r'.entries[m]? = some { entry with stage := stage }
  sessions : ∀ (m : SessionId) (s : Session), r.world.sessions[m]? = some s →
    ∃ s', r'.world.sessions[m]? = some s' ∧ s.Follows s'
  length : r'.world.sessions.length = r.world.sessions.length
  finished : ∀ m, r.isFinished m = true → r'.isFinished m = true

omit [Backend β] in
theorem Onward.refl (r : Sessions β) : Onward r r :=
  ⟨fun _ entry he => ⟨entry.stage, he⟩, fun _ s hs => ⟨s, hs, .refl s⟩, rfl, fun _ h => h⟩

omit [Backend β] in
theorem Onward.trans {r'' : Sessions β} (h : Onward r r') (h' : Onward r' r'') : Onward r r'' := by
  refine ⟨?_, ?_, h'.length.trans h.length,
    fun m hm => h'.finished m (h.finished m hm)⟩
  · intro m entry he
    obtain ⟨stage, he'⟩ := h.entries m entry he
    obtain ⟨stage', he''⟩ := h'.entries m _ he'
    exact ⟨stage', he''⟩
  · intro m s hs
    obtain ⟨s', hs', hf⟩ := h.sessions m s hs
    obtain ⟨s'', hs'', hf'⟩ := h'.sessions m s' hs'
    exact ⟨s'', hs'', hf.trans hf'⟩

/-- Triggering the end of a session takes nothing back. -/
theorem Orderly.onward_trigger (h : Orderly r) (he : r.entries[n]? = some entry) :
    Onward r (Registry.trigger Session.contract n r) := by
  refine ⟨?_, ?_, ?_, ?_⟩
  · intro m old hold
    rw [entries_trigger he, getElem?_setStage, hold, Option.map_some]
    split
    · exact ⟨_, rfl⟩
    · exact ⟨old.stage, rfl⟩
  · intro m s hs
    exact ⟨s, by rw [h.trigger_eq he, world_finish, Floor.sessions_halt]; exact hs, .refl s⟩
  · rw [h.trigger_eq he, world_finish, Floor.sessions_halt]
  · intro m hm
    rw [h.trigger_eq he]
    exact isFinished_finish_of_isFinished hm

/-- Concluding a session takes nothing back. -/
theorem Orderly.onward_conclude (h : Orderly r) (he : r.entries[n]? = some entry)
    (hs : entry.stage = .stopping) : Onward r (Registry.conclude Session.contract n r) := by
  obtain ⟨s, hsession, hm⟩ := h.matched n entry he
  rw [h.conclude_eq he (by simp [hs, Stage.gate, Gate.isFired]) hsession]
  refine ⟨?_, ?_, ?_, fun m hm => hm⟩
  · intro m old hold
    rw [getElem?_setStage, show r.entries[m]? = some old from hold, Option.map_some]
    split
    · exact ⟨_, rfl⟩
    · exact ⟨old.stage, rfl⟩
  · intro m t ht
    have hget := Session.getElem?_floorAfter hsession m
    by_cases hn : n = m
    · subst hn
      obtain rfl : s = t := Option.some.inj (hsession.symm.trans ht)
      exact ⟨_, hget.trans (if_pos rfl), Session.follows_silenced ..⟩
    · exact ⟨t, hget.trans ((if_neg hn).trans ht), .refl t⟩
  · simp [setStage, Session.sessions_floorAfter]

/-- A registry that has come to rest after something has happened to some sessions. -/
structure Settles (ns : List SessionId) (r r' : Sessions β) : Prop where
  orderly : Orderly r'
  settled : Settled r'
  aside : Aside ns r r'
  onward : Onward r r'
  holds : ∀ others targets, r.world.Holds others targets → r'.world.Holds others targets

/-- Settling a registry in which something has happened to one session is a matter of that session.
-/
theorem Orderly.settle_aside {r₀ : Sessions β} (h₀ : Orderly r₀) (hs₀ : Settled r₀) (h : Orderly r)
    (ha : Aside [n] r₀ r) : Settles [n] r (settle Session.contract r) := by
  have hinv : Orderly (settle Session.contract r) ∧ Aside [n] r (settle Session.contract r) ∧
      Onward r (settle Session.contract r) ∧ ∀ others targets, r.world.Holds others targets →
        (settle Session.contract r).world.Holds others targets := by
    refine settle_induction (P := fun r' => Orderly r' ∧ Aside [n] r r' ∧ Onward r r' ∧
        ∀ others targets, r.world.Holds others targets → r'.world.Holds others targets)
      ⟨h, .refl _ _, .refl _, fun _ _ hf => hf⟩ ?_
    rintro r' e entry ⟨ho, hr, honward, hholds⟩ he hdue
    obtain ⟨hfired, hdone⟩ := (ho.isDue_iff he).mp hdue
    -- No other entry can be due: it would have been due in `r₀`, which had settled.
    have hen : e = n := by
      by_contra hne
      have hnot : e ∉ [n] := by simpa using hne
      have hall := ha.next hr
      have he₀ : r₀.entries[e]? = some entry := (hall.entries e hnot).symm.trans he
      have hdone₀ : r₀.isFinished e = true := (hall.finished e hnot).symm.trans hdone
      have := (h₀.isDue_iff he₀).mpr ⟨hfired, hdone₀⟩
      rw [hs₀ entry (List.mem_of_getElem? he₀)] at this
      exact Bool.false_ne_true this
    subst hen
    have hstage := stage?_of_getElem? he
    cases hs : entry.stage with
    | armed =>
      rw [hs] at hstage
      rw [proceed_of_armed hstage]
      exact ⟨ho.trigger he hs, hr.next (ho.aside_trigger he), honward.trans (ho.onward_trigger he),
        fun _ _ hf => ho.holds_trigger he (hholds _ _ hf)⟩
    | stopping =>
      rw [hs] at hstage
      rw [proceed_of_stopping hstage]
      exact ⟨ho.conclude he hs, hr.next (ho.aside_conclude he hs),
        honward.trans (ho.onward_conclude he hs),
        fun _ _ hf => ho.holds_conclude he hs (hholds _ _ hf)⟩
    | concluded body => simp [hs, Stage.gate, Gate.isFired] at hfired
  exact ⟨hinv.1, settled_settle Session.quiet_contract r, hinv.2.1, hinv.2.2.1, hinv.2.2.2⟩

end Registry

end MediaProxy
