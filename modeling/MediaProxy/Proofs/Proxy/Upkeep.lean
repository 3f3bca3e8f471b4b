import MediaProxy.Proofs.Proxy.Orderly

/-!
# What the proxy does to its registry

The operations on the registry of sessions, each from an orderly and settled registry to the next
one: a session is ended because it is asked for (`Orderly.reach`, `Orderly.stopOne`,
`Orderly.stopAll`) or because its backend is over (`Orderly.finish`), a session is registered
(`Orderly.enlist`), and the world changes without the registry being asked (`Orderly.refloor`).

A session that has ended is over and stays in place with all of its relays closed; all others are as
they were.
-/

namespace MediaProxy.Registry

variable {β : Type} [Backend β] {r r' : Sessions β} {n m : SessionId} {entry : Entry ClientKey}
  {s : Session} {key : ClientKey} {others targets : List SocketAddress}

/-! ## The world -/

/-- The world may change in any way that leaves the sessions the sessions that they are. -/
theorem Orderly.refloor (h : Orderly r) {f : Floor β}
    (hlength : f.sessions.length = r.world.sessions.length)
    (hf : ∀ (m : SessionId) (s : Session), r.world.sessions[m]? = some s →
      ∃ s', f.sessions[m]? = some s' ∧ s.Follows s' ∧ (s.Fails → s'.Fails)) :
    Orderly { r with world := f } := by
  have hworkers : ∀ entry ∈ r.entries, Session.contract.workers f entry.session =
      Session.contract.workers r.world entry.session := by
    intro entry hentry
    obtain ⟨m, he⟩ := List.mem_iff_getElem?.mp hentry
    obtain ⟨s, hs, hm⟩ := h.matched m entry he
    obtain ⟨s', hs', hfollows, -⟩ := hf m s hs
    rw [hm.session, Session.workers_eq hs, Session.workers_eq hs', hfollows.backend]
  refine ⟨h.sound.deed Session.steady_contract (.change f hworkers), h.latches,
    hlength.trans h.sessions, ?_, h.bound_iff, h.keys_nodup⟩
  intro m entry he
  obtain ⟨s, hs, hm⟩ := h.matched m entry he
  obtain ⟨s', hs', hfollows, hfails⟩ := hf m s hs
  exact ⟨s', hs', hm.session, hfollows.backend.trans hm.backend,
    hfollows.client.trans hm.client, hm.asked,
    fun body hb =>
      ⟨(hm.concluded body hb).1, fun control => hfollows.closed control ((hm.concluded body hb).2 control)⟩,
    fun hfired => hfails (hm.fails hfired)⟩

omit [Backend β] in
/-- What sessions share is no matter of what is due in the registry. -/
theorem Settled.refloor (h : Settled r) (f : Floor β) : Settled { r with world := f } := h

/-! ## A backend is over -/

/-- A registry stays orderly when a backend is over. -/
theorem Orderly.finish_unsettled (h : Orderly r) (w : WorkerId) : Orderly (r.finish w).2 := by
  refine ⟨h.sound.deed Session.steady_contract (.finish w), by simpa using h.latches,
    by simpa using h.sessions, ?_, by simpa using h.bound_iff,
    by simpa [keys] using h.keys_nodup⟩
  intro m entry he
  obtain ⟨s, hs, hm⟩ := h.matched m entry (by simpa using he)
  exact ⟨s, by simpa using hs, hm.session, hm.backend, hm.client,
    fun hne => isFinished_finish_of_isFinished (hm.asked hne), hm.concluded, hm.fails⟩

omit [Backend β] in
/-- That a backend is over leaves all other sessions as they are. -/
theorem aside_finish (r : Sessions β) (w : WorkerId) : Aside [w] r (r.finish w).2 := by
  refine ⟨fun m _ => by rw [entries_finish], fun m _ => by rw [world_finish], ?_⟩
  intro m hm
  rw [isFinished_finish]
  simp [List.mem_singleton.not.mp hm]

omit [Backend β] in
/-- That a backend is over takes nothing back. -/
theorem onward_finish (r : Sessions β) (w : WorkerId) : Onward r (r.finish w).2 :=
  ⟨fun _ entry he => ⟨entry.stage, by rwa [entries_finish]⟩,
    fun _ s hs => ⟨s, by rwa [world_finish], .refl s⟩, by rw [world_finish],
    fun _ hm => isFinished_finish_of_isFinished hm⟩

/-- A change of one session, and what follows from it. -/
theorem Settles.after {r₀ : Sessions β} (h : Settles [n] r r') (ha : Aside [n] r₀ r)
    (ho : Onward r₀ r)
    (hh : ∀ others targets, r₀.world.Holds others targets → r.world.Holds others targets) :
    Settles [n] r₀ r' :=
  ⟨h.orderly, h.settled, ha.next h.aside, ho.trans h.onward,
    fun _ _ hf => h.holds _ _ (hh _ _ hf)⟩

/-- After its backend is over a session has ended, and no other session has. -/
theorem Orderly.finish (h : Orderly r) (hr : Settled r) (w : WorkerId) :
    Settles [w] r (settle Session.contract (r.finish w).2) ∧
    (w < r.latches.length → (settle Session.contract (r.finish w).2).isFinished w = true) := by
  have hsettles := h.settle_aside hr (h.finish_unsettled w) (aside_finish r w)
  refine ⟨hsettles.after (aside_finish r w) (onward_finish r w) fun _ _ hf => by rwa [world_finish],
    fun hw => hsettles.onward.finished w ?_⟩
  simp [isFinished_finish, hw]

/-! ## Ending a session -/

omit [Backend β] in
/-- A session that **has ended** leaves its entry over. -/
theorem stage_of_isFired {r' : Sessions β} (h : Onward r r') (he : r.entries[n]? = some entry)
    (hfired : ∀ entry', r'.entries[n]? = some entry' → entry'.stage.gate.isFired = true) :
    ∃ body, r'.entries[n]? = some { entry with stage := .concluded body } := by
  obtain ⟨stage, he'⟩ := h.entries n entry he
  have := hfired _ he'
  cases stage with
  | armed => cases this
  | stopping => cases this
  | concluded body => exact ⟨body, he'⟩

/-- Once a session has been asked to end, it has. -/
theorem Orderly.reach (h : Orderly r) (hr : Settled r) (he : r.entries[n]? = some entry) :
    Settles [n] r (settle Session.contract (Registry.reach Session.contract n r).2) ∧
    (settle Session.contract (Registry.reach Session.contract n r).2).entries[n]? =
      some { entry with stage := .concluded (.returns none) } := by
  have hsettles : Settles [n] r (settle Session.contract (Registry.reach Session.contract n r).2) ∧
      ∀ entry', (settle Session.contract (Registry.reach Session.contract n r).2).entries[n]? =
          some entry' →
        entry'.stage.gate.isFired = true := by
    cases hfired : entry.stage.gate.isFired with
    | false =>
      have hs := (h.armed hr he hfired).1
      have hstage : r.stage? n = some .armed := hs ▸ stage?_of_getElem? he
      have htriggered := h.trigger he hs
      have hsettle := h.settle_aside hr htriggered (h.aside_trigger he)
      rw [reach_of_armed hstage]
      refine ⟨hsettle.after (h.aside_trigger he) (h.onward_trigger he)
        fun _ _ hf => h.holds_trigger he hf, ?_⟩
      intro entry' he'
      -- The trigger has ended the backend, and a settled entry whose backend is over has ended.
      refine hsettle.orderly.isFired_of_finished hsettle.settled he' (hsettle.onward.finished n ?_)
      have hget : (Registry.trigger Session.contract n r).entries[n]? =
          some { entry with stage := .stopping } := by
        rw [entries_trigger he, getElem?_setStage, he]
        simp
      obtain ⟨s, -, hm⟩ := htriggered.matched n _ hget
      exact hm.asked (by simp)
    | true =>
      have hne : r.stage? n ≠ some .armed := by
        rw [stage?_of_getElem? he]
        intro hs
        rw [Option.some.inj hs] at hfired
        cases hfired
      rw [reach_of_not_armed hne, settle, advances_of_settled hr]
      refine ⟨⟨h, hr, .refl _ _, .refl _, fun _ _ hf => hf⟩, ?_⟩
      intro entry' he'
      obtain rfl := Option.some.inj (he.symm.trans he')
      exact hfired
  obtain ⟨body, hbody⟩ := stage_of_isFired hsettles.1.onward he hsettles.2
  obtain ⟨s, -, hm⟩ := hsettles.1.orderly.matched n _ hbody
  obtain ⟨rfl, -⟩ := hm.concluded body rfl
  exact ⟨hsettles.1, hbody⟩

/-- What is over is under no key, so there is nothing to remove. -/
theorem Orderly.remove_of_concluded (h : Orderly r) {body : Body} (he : r.entries[n]? = some entry)
    (hs : entry.stage = .concluded body) : r.remove n = r := by
  have hnot : ∀ b ∈ r.bound, b ≠ (entry.key, n) := by
    rintro b hb rfl
    obtain ⟨entry', he', -, hfired⟩ := (h.bound_iff _ n).mp hb
    obtain rfl := Option.some.inj (he.symm.trans he')
    simp [hs, Stage.gate, Gate.isFired] at hfired
  have hfilter : r.bound.filter (· ≠ (entry.key, n)) = r.bound :=
    List.filter_eq_self.mpr fun b hb => by simpa using hnot b hb
  rw [remove, he]
  simp only [unbind, hfilter]

theorem Settles.trans {ns ms : List SessionId} {r'' : Sessions β} (h : Settles ns r r')
    (h' : Settles ms r' r'') : Settles (ns ++ ms) r r'' :=
  ⟨h'.orderly, h'.settled, h.aside.trans h'.aside, h.onward.trans h'.onward,
    fun _ _ hf => h'.holds _ _ (h.holds _ _ hf)⟩

/-- A session that has been concluded has its backend over. -/
theorem Orderly.isFinished_of_concluded (h : Orderly r) {body : Body} (he : r.entries[n]? = some entry)
    (hs : entry.stage = .concluded body) : r.isFinished n = true := by
  obtain ⟨s, -, hm⟩ := h.matched n entry he
  exact hm.asked (by simp [hs])

/-- A stop of a session that there is stops it. -/
theorem Orderly.stopOne (h : Orderly r) (hr : Settled r) (hb : (key, n) ∈ r.bound) :
    ∃ r', stopOne Session.contract key r = some (.stopped, r') ∧ Settles [n] r r' ∧
      r'.isFinished n = true := by
  obtain ⟨entry, he, -, hfired⟩ := (h.bound_iff key n).mp hb
  have hstage : r.stage? n = some .armed := (h.armed hr he hfired).1 ▸ stage?_of_getElem? he
  obtain ⟨hsettles, hover⟩ := h.reach hr he
  have hown : (Registry.reach Session.contract n r).1 = ⟨n, true⟩ := by rw [reach_of_armed hstage]
  refine ⟨_, ?_, hsettles, hsettles.orderly.isFinished_of_concluded hover rfl⟩
  rw [Registry.stopOne, beginStop, (boundTo?_eq_some_iff h.keys_nodup).mpr hb]
  simp only
  rw [finishStop_of_concluded (by rw [hown]; exact stage?_of_getElem? hover), hown,
    hsettles.orderly.remove_of_concluded hover rfl]
  rfl

/-- A stop of several sessions ends each of them. -/
theorem Orderly.stopEach (h : Orderly r) (hr : Settled r) (chosen : List SessionId)
    (hchosen : ∀ n ∈ chosen, n < r.entries.length) :
    ∃ r', stopEach Session.contract chosen r = some (.ok (), r') ∧ Settles chosen r r' ∧
      ∀ n ∈ chosen, r'.isFinished n = true := by
  induction chosen generalizing r with
  | nil => exact ⟨r, rfl, ⟨h, hr, .refl _ _, .refl _, fun _ _ hf => hf⟩, by simp⟩
  | cons n rest ih =>
    obtain ⟨entry, he⟩ : ∃ entry, r.entries[n]? = some entry :=
      ⟨_, List.getElem?_eq_getElem (hchosen n List.mem_cons_self)⟩
    obtain ⟨hsettles, hover⟩ := h.reach hr he
    have hlength : (settle Session.contract (Registry.reach Session.contract n r).2).entries.length =
        r.entries.length := by
      rw [← hsettles.orderly.sessions, hsettles.onward.length, h.sessions]
    obtain ⟨r', hr', hsettles', hfinished⟩ := ih hsettles.orderly hsettles.settled fun m hm => by
      rw [hlength]
      exact hchosen m (List.mem_cons_of_mem _ hm)
    refine ⟨r', ?_, hsettles.trans hsettles', List.forall_mem_cons.mpr ⟨?_, hfinished⟩⟩
    · have hstage : (settle Session.contract (Registry.reach Session.contract n r).2).stage? n =
          some (.concluded (.returns none)) := stage?_of_getElem? hover
      rw [Registry.stopEach]
      simp only [hstage]
      cases hown : (Registry.reach Session.contract n r).1.own <;> simpa [Stop.reply, hown] using hr'
    · exact hsettles'.onward.finished n (hsettles.orderly.isFinished_of_concluded hover rfl)

/-- There is nothing to remove of sessions that are over. -/
theorem Orderly.foldl_remove (h : Orderly r) (hr : Settled r) (chosen : List SessionId)
    (hchosen : ∀ n ∈ chosen, r.isFinished n = true) : chosen.foldl remove r = r := by
  induction chosen with
  | nil => rfl
  | cons n rest ih =>
    have hsame : r.remove n = r := by
      cases he : r.entries[n]? with
      | none => rw [remove, he]
      | some entry =>
        have hfired := h.isFired_of_finished hr he (hchosen n List.mem_cons_self)
        obtain ⟨body, hs⟩ := (isFired_gate_iff _).mp hfired
        exact h.remove_of_concluded he hs
    rw [List.foldl_cons, hsame]
    exact ih fun m hm => hchosen m (List.mem_cons_of_mem _ hm)

/-- A stop of all sessions leaves none. -/
theorem Orderly.stopAll (h : Orderly r) (hr : Settled r) :
    ∃ r', stopAll Session.contract r = some (.ok r.bound.length, r') ∧
      Settles (r.bound.map Prod.snd) r r' ∧ r'.bound = [] := by
  obtain ⟨r', heach, hsettles, hfinished⟩ := h.stopEach hr (r.bound.map Prod.snd) fun n hn => by
    obtain ⟨b, hb, rfl⟩ := List.mem_map.mp hn
    exact h.sound.bound_lt b hb
  refine ⟨r', ?_, hsettles, List.eq_nil_iff_forall_not_mem.mpr ?_⟩
  · rw [Registry.stopAll, heach, List.length_map]
    simp only [hsettles.orderly.foldl_remove hsettles.settled _ hfinished]
  · -- What is bound now has not ended, so it was not chosen; but it was bound before, so it was.
    rintro ⟨key, n⟩ hb
    obtain ⟨entry, he, hkey, hfired⟩ := (hsettles.orderly.bound_iff key n).mp hb
    by_cases hn : n ∈ r.bound.map Prod.snd
    · rw [hsettles.orderly.isFired_of_finished hsettles.settled he (hfinished n hn)] at hfired
      cases hfired
    · have he' : r.entries[n]? = some entry := (hsettles.aside.entries n hn).symm.trans he
      exact hn (List.mem_map_of_mem ((h.bound_iff key n).mpr ⟨entry, he', hkey, hfired⟩))

/-! ## Registering a session -/

omit [Backend β] in
theorem getElem?_concat_of_ne {α : Type} {l : List α} {a : α} (hm : m ≠ l.length) :
    (l ++ [a])[m]? = l[m]? := by
  rw [List.getElem?_append]
  split
  · rfl
  next hge =>
    have hpos : m - l.length ≠ 0 := Nat.sub_ne_zero_of_lt
      (Nat.lt_of_le_of_ne (Nat.le_of_not_lt hge) (Ne.symm hm))
    simp [hpos, Nat.le_of_not_lt hge]

/-- The registry with one more backend and one more session, which is not registered yet. -/
def withSession (r : Sessions β) (latch : Latch) (s : Session) : Sessions β :=
  { (r.hire latch).2 with world := { r.world with sessions := r.world.sessions ++ [s] } }

omit [Backend β] in
/-- A new session leaves those that are there as they are. -/
theorem getElem?_withSession_of_lt (latch : Latch) (hm : m < r.world.sessions.length) :
    (r.withSession latch s).world.sessions[m]? = r.world.sessions[m]? := by
  simp [withSession, List.getElem?_append_left hm]

omit [Backend β] in
/-- A new session has the number after all others. -/
theorem getElem?_withSession_self (latch : Latch) :
    (r.withSession latch s).world.sessions[r.world.sessions.length]? = some s := by
  simp [withSession]

/-- A backend that nobody watches may be added. -/
theorem Orderly.sound_withSession (h : Orderly r) {latch : Latch} (hl : latch.registrations = []) :
    Sound Session.contract (r.withSession latch s) := by
  refine (h.sound.deed Session.steady_contract (.hire latch hl)).deed Session.steady_contract
    (.change _ ?_)
  intro entry hentry
  obtain ⟨m, he⟩ := List.mem_iff_getElem?.mp hentry
  obtain ⟨t, ht, hm⟩ := h.matched m entry he
  have ht' := (getElem?_withSession_of_lt (s := s) latch (List.getElem?_eq_some_iff.mp ht).1).trans ht
  rw [hm.session]
  exact (Session.workers_eq ht').trans (Session.workers_eq ht).symm

theorem sessions_enlisted (r : Sessions β) (key : ClientKey) (n : SessionId) :
    (r.enlisted Session.contract key n).world.sessions = r.world.sessions :=
  Session.sessions_announce n (r.entered Session.contract key n)

theorem site_enlisted (r : Sessions β) (key : ClientKey) (n : SessionId) :
    (r.enlisted Session.contract key n).world.site = r.world.site :=
  Session.site_announce n (r.entered Session.contract key n)

/-- Whoever is entered under a key that was free finds itself there. -/
theorem lookup_entered (hkey : key ∉ r.keys) (n : SessionId) :
    (r.entered Session.contract key n).lookup key = some n := by
  have hnone : r.bound.lookup key = none := boundTo?_eq_none_iff.mpr hkey
  have hbound : (r.entered Session.contract key n).boundTo? key = some r.entries.length := by
    simp [boundTo?, entered, List.lookup_append, hnone]
  have hentries : (r.entered Session.contract key n).entries = r.entries ++ [_] := rfl
  simp [lookup, entry?, hbound, hentries]

/-- What the world keeps of a session that is enlisted under its key, where there was none. -/
theorem world_enlisted_session (hsession : r.world.sessions[n]? = some s) (hkey : s.client ∉ r.keys) :
    (r.enlisted Session.contract s.client n).world =
      (r.world.note (.registered n)).note (.started n) := by
  have hworld : (r.entered Session.contract s.client n).world = r.world := rfl
  have hannounce : (r.enlisted Session.contract s.client n).world =
      Session.announce n (r.entered Session.contract s.client n) := rfl
  rw [hannounce, Session.announce, hworld, hsession]
  simp only [Option.any_some, lookup_entered hkey, decide_true, if_true]

/-- The registry after a session has been **enlisted**: all entries and one more, which is armed. -/
theorem Orderly.enlist (h : Orderly r) {latch : Latch} (hl : latch.registrations = [])
    (hkey : s.client ∉ r.keys) (hbackend : s.backend = r.latches.length) (hfails : s.Fails) :
    Orderly ((r.withSession latch s).enlisted Session.contract s.client r.entries.length) := by
  have hnew : (r.withSession latch s).world.sessions[r.entries.length]? = some s := by
    rw [← h.sessions]
    exact getElem?_withSession_self latch
  have hworkers :
      Session.contract.workers (r.withSession latch s).world r.entries.length = [s.backend] :=
    Session.workers_eq hnew
  have hfinished : ∀ w,
      ((r.withSession latch s).enlisted Session.contract s.client r.entries.length).isFinished w =
      (r.hire latch).2.isFinished w := fun w => (isFinished_congr rfl w).trans isFinished_observeAll
  refine {
    sound := ?sound
    latches := ?latches
    sessions := ?sessions
    matched := ?matched
    bound_iff := ?bound_iff
    keys_nodup := ?keys_nodup }
  case sound =>
    refine (h.sound_withSession hl).enlisted Session.steady_contract s.client ?_ ?_
    · rw [hworkers]
      exact List.nodup_singleton _
    · rw [hworkers]
      simp [withSession, Registry.hire, hbackend]
  case latches =>
    have hlatches :
      ((r.withSession latch s).enlisted Session.contract s.client r.entries.length).latches.length =
        (r.withSession latch s).latches.length := length_latches_observeAll
    rw [hlatches]
    simp [withSession, Registry.hire, enlisted, entered, h.latches]
  case sessions =>
    rw [sessions_enlisted]
    simp [withSession, Registry.hire, enlisted, entered, h.sessions]
  case matched =>
    intro m entry he
    have hworld : ((r.withSession latch s).enlisted Session.contract s.client
        r.entries.length).world.sessions = r.world.sessions ++ [s] := sessions_enlisted ..
    have hentries : ((r.withSession latch s).enlisted Session.contract s.client
        r.entries.length).entries = r.entries ++ [_] := rfl
    by_cases hm : m = r.entries.length
    · subst hm
      obtain rfl := Option.some.inj ((List.getElem?_concat_length ..).symm.trans (hentries ▸ he))
      refine ⟨s, ?_, ?_⟩
      · rw [hworld, ← h.sessions]
        exact List.getElem?_concat_length ..
      · constructor <;> simp [h.latches, hbackend, hfails]
    · rw [hentries, getElem?_concat_of_ne hm] at he
      obtain ⟨t, ht, hmatch⟩ := h.matched m entry he
      refine ⟨t, ?_, hmatch.session, hmatch.backend, hmatch.client, ?_, hmatch.concluded,
        hmatch.fails⟩
      · rw [hworld, getElem?_concat_of_ne (h.sessions ▸ hm)]
        exact ht
      · intro hne
        rw [hfinished, isFinished_hire_of_lt latch (h.latches ▸ (List.getElem?_eq_some_iff.mp he).1)]
        exact hmatch.asked hne
  case bound_iff =>
    intro key m
    have hbound :
      ((r.withSession latch s).enlisted Session.contract s.client r.entries.length).bound =
        r.bound ++ [(s.client, r.entries.length)] := rfl
    have hentries : ((r.withSession latch s).enlisted Session.contract s.client
        r.entries.length).entries = r.entries ++ [_] := rfl
    rw [hbound, List.mem_append, h.bound_iff, List.mem_singleton, Prod.mk.injEq, hentries]
    by_cases hm : m = r.entries.length
    · subst hm
      simpa [Stage.gate, Gate.isFired] using eq_comm
    · rw [getElem?_concat_of_ne hm]
      simp [hm]
  case keys_nodup =>
    -- The new key is none of the others.
    have hkeys : ((r.withSession latch s).enlisted Session.contract s.client r.entries.length).keys =
        r.keys ++ [s.client] := by simp [enlisted, entered, withSession, keys, Registry.hire]
    rw [hkeys]
    refine List.nodup_append.mpr ⟨h.keys_nodup, List.nodup_singleton _, ?_⟩
    intro key hk key' hk' heq
    exact hkey (List.mem_singleton.mp hk' ▸ heq ▸ hk)

/-- Enlisting a session leaves all others as they are. -/
theorem Orderly.aside_enlist (h : Orderly r) (latch : Latch) (s : Session) :
    Aside [r.entries.length] r
      ((r.withSession latch s).enlisted Session.contract s.client r.entries.length) := by
  refine ⟨fun m hm => ?_, fun m hm => ?_, fun m hm => ?_⟩ <;> rw [List.mem_singleton] at hm
  · exact getElem?_concat_of_ne hm
  · rw [sessions_enlisted]
    exact getElem?_concat_of_ne (h.sessions ▸ hm)
  · refine (isFinished_congr rfl m).trans (isFinished_observeAll.trans ?_)
    have hlatch : (r.latches ++ [latch])[m]? = r.latches[m]? := getElem?_concat_of_ne (h.latches ▸ hm)
    simp [isFinished, withSession, Registry.hire, hlatch]

omit [Backend β] in
/-- The worker of a new session is over exactly if it was so when it was added. -/
theorem isFinished_enlisted_self (h : r.latches.length = r.entries.length) (latch : Latch)
    (s : Session)
    [Backend β] :
    ((r.withSession latch s).enlisted Session.contract s.client r.entries.length).isFinished
      r.entries.length =
      latch.isDone := by
  refine (isFinished_congr rfl _).trans (isFinished_observeAll.trans ?_)
  rw [← h]
  exact isFinished_hire_self latch

/-- A registry is settled when no session that is under its key has its backend done. -/
theorem Orderly.settled_of (h : Orderly r) (hbusy : ∀ n entry, r.entries[n]? = some entry →
    entry.stage.gate.isFired = false → r.isFinished n = false) : Settled r := by
  intro entry hentry
  obtain ⟨n, he⟩ := List.mem_iff_getElem?.mp hentry
  rw [← Bool.not_eq_true, h.isDue_iff he]
  rintro ⟨hfired, hdone⟩
  rw [hbusy n entry he hfired] at hdone
  exact Bool.false_ne_true hdone

/-- After a session has been enlisted and what is due has been done, there is one session more. It
is under its key unless its backend was over from the beginning. -/
structure Enlists (r r' : Sessions β) (s : Session) (ended : Bool) : Prop where
  orderly : Orderly r'
  settled : Settled r'
  aside : Aside [r.entries.length] r r'
  entry : ∃ entry, r'.entries[r.entries.length]? = some entry ∧ entry.key = s.client
  finished : r'.isFinished r.entries.length = ended
  session : ∃ s', r'.world.sessions[r.entries.length]? = some s' ∧ s.Follows s'
  length : r'.world.sessions.length = r.world.sessions.length + 1

/-- A session with a key of its own is enlisted, and its sockets stay accounted for. -/
theorem Orderly.enlists (h : Orderly r) (hr : Settled r) {latch : Latch}
    (hl : latch.registrations = [])
    (hkey : s.client ∉ r.keys) (hbackend : s.backend = r.latches.length) (hfails : s.Fails) :
    Enlists r (settle Session.contract
      ((r.withSession latch s).enlisted Session.contract s.client r.entries.length)) s latch.isDone ∧
    ∀ others targets,
      ((r.withSession latch s).enlisted Session.contract s.client r.entries.length).world.Holds
        others targets →
      (settle Session.contract
        ((r.withSession latch s).enlisted Session.contract s.client r.entries.length)).world.Holds
          others targets := by
  have ho := h.enlist hl hkey hbackend hfails
  have haside := h.aside_enlist latch s
  have hsettles := h.settle_aside hr ho haside
  have hfinished := isFinished_enlisted_self h.latches latch s
  have hentry : ((r.withSession latch s).enlisted Session.contract s.client
      r.entries.length).entries[r.entries.length]? = some _ := List.getElem?_concat_length ..
  have hsession : ((r.withSession latch s).enlisted Session.contract s.client
      r.entries.length).world.sessions[r.entries.length]? = some s := by
    rw [sessions_enlisted, ← h.sessions]
    exact List.getElem?_concat_length ..
  refine ⟨⟨hsettles.orderly, hsettles.settled, haside.next hsettles.aside, ?_, ?_, ?_, ?_⟩,
    hsettles.holds⟩
  · obtain ⟨stage, he⟩ := hsettles.onward.entries _ _ hentry
    exact ⟨_, he, rfl⟩
  · cases hdone : latch.isDone with
    | true => exact hsettles.onward.finished _ (hfinished.trans hdone)
    | false =>
      -- Nothing is due, so settling does nothing.
      have hbusy :
        Settled ((r.withSession latch s).enlisted Session.contract s.client r.entries.length) :=
        ho.settled_of fun m entry he hfired => by
          by_cases hm : m = r.entries.length
          · subst hm
            exact hfinished.trans hdone
          · have hm' : m ∉ [r.entries.length] := by simpa using hm
            rw [haside.entries m hm'] at he
            rw [haside.finished m hm']
            exact (h.armed hr he hfired).2
      rw [settle, advances_of_settled hbusy]
      exact hfinished.trans hdone
  · obtain ⟨s', hs', hf⟩ := hsettles.onward.sessions _ _ hsession
    exact ⟨s', hs', hf⟩
  · rw [hsettles.onward.length, sessions_enlisted]
    simp [withSession]

end MediaProxy.Registry
