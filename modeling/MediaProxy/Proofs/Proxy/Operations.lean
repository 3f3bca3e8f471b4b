import MediaProxy.Proofs.Proxy.Upkeep
import MediaProxy.Proxy.Basic

/-!
# What can happen to a proxy

The operations of a proxy, each with what it comes to. A start is refused for one of two kinds of
reasons or launches a session (`Proxy.start_cases`), and a launched session is one more session
(`Launched.enlists`); a stop and the end of a backend each end one session that there is, and a stop
of all ends them all; and whatever datagrams and failures do to relays leaves the sessions the
sessions that they are (`Proxy.Stirs`).
-/

namespace MediaProxy

open Registry

variable {β : Type}

/-! ## Stirring relays -/

/-- How a floor **evolves**: its sessions are the same ones later, and relays close only by
themselves. -/
structure Floor.Evolves (f f' : Floor β) : Prop where
  length : f'.sessions.length = f.sessions.length
  sessions : ∀ (m : SessionId) (s : Session), f.sessions[m]? = some s →
    ∃ s', f'.sessions[m]? = some s' ∧ s.Follows s' ∧ (s.Fails → s'.Fails)

/-- A floor on which relays have **stirred**: some may have closed by themselves, and nobody writes
that down. -/
structure Floor.Stirs (f f' : Floor β) : Prop where
  evolves : f.Evolves f'
  journal : f'.journal = f.journal
  holds : ∀ others targets, f.Holds others targets → f'.Holds others targets

namespace Floor

variable {f f' f'' : Floor β}

/-- A floor with the same sessions has them going on. -/
theorem Evolves.of_eq (h : f'.sessions = f.sessions) : f.Evolves f' :=
  ⟨by rw [h], fun _ s hs => ⟨s, h ▸ hs, .refl s, id⟩⟩

theorem Evolves.refl (f : Floor β) : f.Evolves f := .of_eq rfl

theorem Evolves.trans (h : f.Evolves f') (h' : f'.Evolves f'') : f.Evolves f'' := by
  refine ⟨h'.length.trans h.length, ?_⟩
  intro m s hs
  obtain ⟨s', hs', hfollows, hfails⟩ := h.sessions m s hs
  obtain ⟨s'', hs'', hfollows', hfails'⟩ := h'.sessions m s' hs'
  exact ⟨s'', hs'', hfollows.trans hfollows', hfails' ∘ hfails⟩

end Floor

namespace Proxy

variable {p p' p'' : Proxy β} {n : SessionId}

/-- A relay of a session fails. -/
def failAt (n : SessionId) (control : Bool) (reason : Text) (p : Proxy β) : Proxy β :=
  match p.registry.world.sessions[n]? with
  | none => p
  | some s =>
    let floor := p.registry.world
    let (relay, site) := (s.relays.side control).shutdown (some reason) floor.site
    p.withFloor
      ({ floor with site := site }.setSession n { s with relays := s.relays.setSide control relay })

/-- A proxy of which only the floor has stirred. -/
def Stirs (p p' : Proxy β) : Prop := ∃ f, p' = p.withFloor f ∧ p.registry.world.Stirs f

theorem Stirs.refl (p : Proxy β) : p.Stirs p := ⟨p.registry.world, rfl, .refl _, rfl, fun _ _ h => h⟩

theorem Stirs.trans (h : p.Stirs p') (h' : p'.Stirs p'') : p.Stirs p'' := by
  obtain ⟨f, rfl, hf⟩ := h
  obtain ⟨f', rfl, hf'⟩ := h'
  exact ⟨f', rfl, hf.evolves.trans hf'.evolves, hf'.journal.trans hf.journal,
    fun _ _ h => hf'.holds _ _ (hf.holds _ _ h)⟩

/-- Whatever a relay does by itself only stirs. -/
theorem stirs_setSide {s : Session} (hs : p.registry.world.sessions[n]? = some s) (control : Bool)
    {r' : Relay} {site' : Site}
    (he : Relay.EvolvesByItself (s.relays.side control) p.registry.world.site r' site') :
    p.Stirs (p.withFloor ({ p.registry.world with site := site' }.setSession n
      { s with relays := s.relays.setSide control r' })) := by
  refine ⟨_, rfl, ⟨by simp [Floor.setSession], ?_⟩, rfl,
    fun _ _ h => h.setSide control hs he⟩
  intro m t ht
  have hget := Floor.getElem?_setSession (f := { p.registry.world with site := site' }) hs
    { s with relays := s.relays.setSide control r' } (m := m)
  by_cases hn : n = m
  · subst hn
    obtain rfl : s = t := Option.some.inj (hs.symm.trans ht)
    exact ⟨_, hget.trans (if_pos rfl), Session.follows_setSide control he,
      fun hf => Session.fails_setSide hf control he⟩
  · exact ⟨t, hget.trans ((if_neg hn).trans ht), .refl t, id⟩

/-- A relay that fails stirs no more than itself. -/
theorem stirs_failAt (n : SessionId) (control : Bool) (reason : Text) (p : Proxy β) :
    p.Stirs (p.failAt n control reason) := by
  unfold failAt
  split
  · exact .refl p
  next s hs =>
    refine stirs_setSide hs control ((Relay.evolves_shutdown _ _ _).mono ?_)
    intro e he
    rw [he, Option.isSome_some]

/-- A datagram stirs no more than the relay where it arrives. -/
theorem stirs_arriveAt (n : SessionId) (control : Bool) (datagram : Bytes) (p : Proxy β) :
    p.Stirs (p.arriveAt n control datagram).2 := by
  unfold arriveAt
  split
  · exact .refl p
  next s hs => exact stirs_setSide hs control (Relay.evolves_arrive ..)

/-- What stirs no more than relays does so when it is done many times. -/
theorem stirs_foldl {α : Type} (f : Proxy β → α → Proxy β)
    (hf : ∀ (p : Proxy β) (a : α), p.Stirs (f p a)) (as : List α)
    (p : Proxy β) : p.Stirs (as.foldl f p) := by
  induction as generalizing p with
  | nil => exact .refl p
  | cons a as ih => exact (hf p a).trans (ih _)

/-- A datagram that goes from relay to relay only stirs them. -/
theorem stirs_passOn (relays : Nat) (target : SocketAddress) (sent : List Delivery) (p : Proxy β) :
    p.Stirs (p.passOn relays target sent) := by
  induction relays generalizing target sent p with
  | zero => exact .refl p
  | succ relays ih =>
    refine stirs_foldl _ ?_ _ p
    intro p delivery
    split
    · exact .refl p
    · exact (stirs_arriveAt ..).trans (ih ..)

/-! ## Starting -/

variable {request : Amp.StartRequest} {fault : Fault}

/-- A request that is refused for itself is not refused for a session that is there. -/
theorem prepare_error {b : Basis} (h : prepare b request = .error fault) (client : Text) :
    fault ≠ .sessionExists client := by
  rintro rfl
  unfold prepare at h
  split at h
  · cases h
  · unfold Url.media at h
    split at h <;> cases h

/-- An address that is free among more sockets is free among fewer. -/
theorem isFree_of_cons {h : Host} {a b : SocketAddress}
    (hfree : Host.isFree { h with bound := b :: h.bound } a = true) :
    h.isFree a = true := by
  simp only [Host.isFree, List.all_cons, Bool.and_eq_true] at hfree
  exact hfree.2

/-- Two relays that have been allocated, with all the sockets that there are on their floor. -/
structure Allocated (p : Proxy β) (relays : Relay.Pair) (site : Site) : Prop where
  fails : ∀ control, (relays.side control).closed = true → (relays.side control).error.isSome = true
  holds : ∀ others targets, p.registry.world.Holds others targets →
    Relay.Holds others targets site.host (relays.rtp :: relays.rtcp :: p.registry.world.relays)
  free : ∀ control, p.registry.world.site.host.isFree (relays.side control).inbound = true
  homed : ∀ control, (relays.side control).HasHome p.basis.relayHost

/-- Two relays that were found and started are allocated. -/
theorem allocated_of_search {p : Proxy β} {first second : Text} {relays : Relay.Pair} {site : Site}
    (h : Relay.search p.basis.relayHost first second p.basis.lowest p.basis.highest
      p.registry.world.site = (.ok relays, site)) :
    p.Allocated (relays.start site).1 (relays.start site).2 := by
  obtain ⟨port, -, s₁, hrtp, hrtcp⟩ := Relay.search_ok h
  have hstart₁ := Relay.evolves_start relays.rtp site
  have hstart₂ := Relay.evolves_start relays.rtcp (relays.rtp.start site).2.2
  have hopen : ∀ r : Relay, r = .made r.inbound r.target → r.closed = false :=
    fun r hr => by rw [hr]; rfl
  rw [Relay.Pair.start_eq]
  refine ⟨?_, ?_, ?_, ?_⟩
  · intro control hc
    cases control with
    | false => exact hstart₁.error hc fun h => by rw [hopen _ hrtp.made] at h; cases h
    | true => exact hstart₂.error hc fun h => by rw [hopen _ hrtcp.made] at h; cases h
  · intro others targets hf
    have hpair := Relay.Holds.opened (Relay.Holds.opened hf hrtp) hrtcp
    exact Relay.Holds.evolve_pair (hpair.perm (.swap ..)) hstart₁ hstart₂
  · intro control
    cases control with
    | false => exact hstart₁.inbound ▸ hrtp.free
    | true =>
      -- The second address is bound after the first, on a host that has one socket more.
      have hfree := hrtcp.free
      rw [hrtp.site] at hfree
      exact hstart₂.inbound ▸ isFree_of_cons hfree
  · intro control
    cases control with
    | false => exact hrtp.hasHome.of_inbound hstart₁.inbound
    | true => exact hrtcp.hasHome.of_inbound hstart₂.inbound

/-- Closing relays that have been allocated gives back what they hold. -/
theorem Allocated.holds_close {p : Proxy β} {relays : Relay.Pair} {site : Site}
    (h : p.Allocated relays site)
    {others targets : List SocketAddress} (hf : p.registry.world.Holds others targets) :
    Relay.Holds others targets (relays.close site).2.host p.registry.world.relays := by
  have hpair := (h.holds others targets hf).evolve_pair (Relay.evolves_shutdown none relays.rtp site)
    (Relay.evolves_shutdown none relays.rtcp _)
  exact (hpair.tail (Session.closed_close ..)).tail (Session.closed_close ..)

variable [Backend β]

/-- A session that is about to be registered, on a floor where its relays have their sockets. -/
structure Launched (p : Proxy β) (request : Amp.StartRequest) (f : Floor β) (s : Session) : Prop where
  client : s.client = .of request.host request.port
  backend : s.backend = p.registry.latches.length
  fails : s.Fails
  sessions : f.sessions = p.registry.world.sessions
  holds : ∀ others targets, p.registry.world.Holds others targets →
    Relay.Holds others targets f.site.host (s.relays.rtp :: s.relays.rtcp :: f.relays)
  /-- Where the relays receive was free before. -/
  free : ∀ control, p.registry.world.site.host.isFree (s.relays.side control).inbound = true
  homed : ∀ control, (s.relays.side control).HasHome p.basis.relayHost

/-- The registry after a launched session has been registered and what is due has been done. -/
def registryAfter (p : Proxy β) (f : Floor β) (s : Session) (ended : Bool) : Sessions β :=
  settle Session.contract
    (((p.withFloor f).registry.withSession (if ended then .finished else .fresh) s).enlisted
    Session.contract s.client p.registry.entries.length)

/-- A session whose client has none is registered. -/
theorem enroll_eq {p : Proxy β} (ho : Orderly p.registry) {f : Floor β} {s : Session} (ended : Bool)
    (hf : f.sessions = p.registry.world.sessions) (hkey : s.client ∉ p.registry.keys) :
    (p.withFloor f).enroll s ended =
      (.ok (),
        ⟨p.basis, p.registryAfter f { s with backend := p.registry.latches.length } ended⟩) := by
  have hn : f.sessions.length = p.registry.entries.length := by rw [hf, ho.sessions]
  have hregister := (register_eq Session.contract
    ((p.withFloor f).registry.withSession (if ended then .finished else .fresh)
      { s with backend := p.registry.latches.length }) s.client p.registry.entries.length).trans
        (if_neg hkey)
  unfold enroll
  simp only [hire, withFloor, hn]
  simp only [withSession, withFloor, hire] at hregister
  rw [hregister]
  rfl

/-- The proxy when two relays have been started, which has led to a site. -/
def launching (p : Proxy β) (relays : Relay.Pair) (site : Site) : Proxy β :=
  p.withFloor (Floor.note { p.registry.world with site := site } (.launched relays.rtp.inbound.port))

/-- What comes of relays that have been started: they are given up, or there is a session of them.
-/
theorem engage_cases {p : Proxy β} (request : Amp.StartRequest) (url : Url) (ho : Orderly p.registry)
    {relays : Relay.Pair} {site : Site} (ha : p.Allocated relays site)
    (hkey : ClientKey.of request.host request.port ∉ p.registry.keys) :
    (∃ cause f, (p.launching relays site).engage request url relays =
        (.error (.backendRefused cause), p.withFloor f) ∧
      f.sessions = p.registry.world.sessions ∧
      ∀ others targets, p.registry.world.Holds others targets → f.Holds others targets) ∨
    ∃ f s ended, p.Launched request f s ∧
      (p.launching relays site).engage request url relays =
        (.ok (), ⟨p.basis, p.registryAfter f s ended⟩) := by
  unfold engage
  simp only
  split
  next cause backends hconnect =>
    refine .inl ⟨cause, _, rfl, rfl, fun others targets hf => ha.holds_close hf⟩
  next ended backends hconnect =>
    refine .inr ⟨_, _, ended, ?_, enroll_eq ho ended rfl hkey⟩
    exact ⟨rfl, rfl, ha.fails, rfl, ha.holds, ha.free, ha.homed⟩

/-- A key is found exactly if it is in use. -/
theorem isSome_lookup_iff {r : Sessions β} (h : Orderly r) (key : ClientKey) :
    (r.lookup key).isSome = true ↔ key ∈ r.keys := by
  simp only [Option.isSome_iff_exists, h.lookup_eq_some_iff, keys, List.mem_map, Prod.exists,
    exists_and_right, exists_eq_right]

/-- What a start comes to. It is refused because the client has a session; or it is refused for
another reason and leaves sessions and sockets as they were; or a session is launched and
registered. -/
theorem start_cases (p : Proxy β) (ho : Orderly p.registry) (request : Amp.StartRequest) :
    (ClientKey.of request.host request.port ∈ p.registry.keys ∧
      p.start request = (.error (.sessionExists (ClientKey.of request.host request.port).text), p)) ∨
    (ClientKey.of request.host request.port ∉ p.registry.keys ∧ ∃ fault f,
      p.start request = (.error fault, p.withFloor f) ∧ (∀ client, fault ≠ .sessionExists client) ∧
      f.sessions = p.registry.world.sessions ∧
      ∀ others targets, p.registry.world.Holds others targets → f.Holds others targets) ∨
    (ClientKey.of request.host request.port ∉ p.registry.keys ∧ ∃ f s ended, p.Launched request f s ∧
      p.start request = (.ok (), ⟨p.basis, p.registryAfter f s ended⟩)) := by
  by_cases hkey : ClientKey.of request.host request.port ∈ p.registry.keys
  · refine .inl ⟨hkey, ?_⟩
    rw [start, if_pos ((isSome_lookup_iff ho _).mpr hkey)]
  rw [start, if_neg (mt (isSome_lookup_iff ho _).mp hkey)]
  simp only [hkey, not_false_eq_true, true_and, false_and, false_or]
  split
  next fault hprepare =>
    exact .inl ⟨fault, p.registry.world, rfl, prepare_error hprepare, rfl, fun _ _ hf => hf⟩
  next second url hprepare =>
    split
    next fault site hsearch =>
      obtain rfl := Relay.search_error hsearch
      refine .inl ⟨fault, _, rfl, ?_, rfl, fun _ _ hf => hf⟩
      intro client hfault
      rcases Relay.fault_of_search (congrArg Prod.fst hsearch) with rfl | hfinal
      · cases hfault
      · rw [hfault] at hfinal
        cases hfinal
    next relays site hsearch =>
      rcases engage_cases request url ho (allocated_of_search hsearch) hkey with
        ⟨cause, f, heq, hf, hholds⟩ | hlaunched
      · exact .inl ⟨_, f, heq, fun _ => Fault.noConfusion, hf, hholds⟩
      · exact .inr hlaunched

/-- What becomes of a launched session. -/
theorem Launched.enlists {p : Proxy β} {f : Floor β} {s : Session} (h : p.Launched request f s)
    (ho : Orderly p.registry) (hs : Settled p.registry) (hkey : s.client ∉ p.registry.keys)
    (ended : Bool) :
    Enlists p.registry (p.registryAfter f s ended) s ended ∧ ∀ others targets,
      p.registry.world.Holds others targets →
        (p.registryAfter f s ended).world.Holds others targets := by
  have ho' : Orderly (p.withFloor f).registry := ho.refloor (by rw [h.sessions]) fun m t ht =>
    ⟨t, by rw [h.sessions]; exact ht, .refl t, id⟩
  have hlatch : (if ended then Latch.finished else Latch.fresh).registrations = [] := by
    cases ended <;> rfl
  have hdone : (if ended then Latch.finished else Latch.fresh).isDone = ended := by cases ended <;> rfl
  obtain ⟨⟨horderly, hsettled, haside, hentry, hfinished, hsession, hlength⟩, hholds⟩ :=
    ho'.enlists (hs.refloor f) hlatch hkey h.backend h.fails
  refine ⟨⟨horderly, hsettled, ⟨haside.entries, ?_, haside.finished⟩, hentry, ?_,
    hsession, ?_⟩, ?_⟩
  · intro m hm
    exact (haside.sessions m hm).trans (by rw [← h.sessions]; rfl)
  · exact hfinished.trans hdone
  · rw [← h.sessions]
    exact hlength
  · intro others targets hf
    refine hholds others targets ?_
    rw [Floor.Holds, site_enlisted]
    refine Relay.Holds.perm (h.holds others targets hf) ?_
    have hrelays : Floor.relays
        (((p.withFloor f).registry.withSession (if ended then .finished else .fresh) s).enlisted
        Session.contract s.client (p.withFloor f).registry.entries.length).world =
        f.relays ++ [s.relays.rtp, s.relays.rtcp] := by
      rw [Floor.relays, sessions_enlisted]
      simp [Floor.relays, withSession, withFloor]
    rw [hrelays]
    exact (List.perm_append_comm : ([s.relays.rtp, s.relays.rtcp] ++ f.relays).Perm _)

/-! ## Ending -/

omit [Backend β] in
/-- A key has a session or is not in use. -/
theorem bound_or_not_mem (p : Proxy β) (key : ClientKey) :
    (∃ n, (key, n) ∈ p.registry.bound) ∨ key ∉ p.registry.keys := by
  by_cases hkey : key ∈ p.registry.keys
  · obtain ⟨⟨_, n⟩, hb, rfl⟩ := List.mem_map.mp hkey
    exact .inl ⟨n, hb⟩
  · exact .inr hkey

/-- Where nothing is due nothing is done. -/
theorem settle_of_settled {r : Sessions β} (h : Settled r) : settle Session.contract r = r :=
  advances_of_settled h _

variable {p : Proxy β} {key : ClientKey} {n : SessionId}

/-- Stopping the session of a client ends it, and succeeds. -/
theorem stop_of_bound (ho : Orderly p.registry) (hs : Settled p.registry) {request : Amp.StopRequest}
    (hb : (ClientKey.of request.host request.port, n) ∈ p.registry.bound) :
    ∃ r, p.stop request = (.ok (), { p with registry := r }) ∧ Settles [n] p.registry r ∧
      r.isFinished n = true := by
  obtain ⟨r, hstop, hsettles, hfinished⟩ := ho.stopOne hs hb
  refine ⟨r, ?_, hsettles, hfinished⟩
  unfold stop
  simp only [hstop, stopResult, settle_of_settled hsettles.settled]

/-- Stopping a session that there is not fails and changes nothing. -/
theorem stop_of_not_mem (hs : Settled p.registry) {request : Amp.StopRequest}
    (hkey : ClientKey.of request.host request.port ∉ p.registry.keys) :
    p.stop request = (.error (.sessionUnknown (ClientKey.of request.host request.port).text), p) := by
  unfold stop
  simp only [stopOne, beginStop, boundTo?_eq_none_iff.mpr hkey, stopResult, settle_of_settled hs]
  rfl

/-- Stopping all sessions ends every one, and counts them. -/
theorem stopAll_eq (ho : Orderly p.registry) (hs : Settled p.registry) :
    ∃ r, p.stopAll = (p.registry.bound.length, { p with registry := r }) ∧
      Settles (p.registry.bound.map Prod.snd) p.registry r ∧ r.bound = [] := by
  obtain ⟨r, hstop, hsettles, hbound⟩ := ho.stopAll hs
  refine ⟨r, ?_, hsettles, hbound⟩
  unfold stopAll
  simp only [hstop, settle_of_settled hsettles.settled]

/-- A client is found to have a session exactly if it is under the client's key. -/
theorem session?_eq_some_iff (ho : Orderly p.registry) {s : Session} :
    p.session? key = some (n, s) ↔ (key, n) ∈ p.registry.bound ∧
      p.registry.world.sessions[n]? = some s := by
  rw [← ho.lookup_eq_some_iff, session?]
  cases p.registry.lookup key with
  | none => simp
  | some m =>
    simp only [Option.bind_some, Option.map_eq_some_iff, Prod.mk.injEq, Option.some.injEq]
    constructor
    · rintro ⟨t, ht, rfl, rfl⟩
      exact ⟨rfl, ht⟩
    · rintro ⟨rfl, hs⟩
      exact ⟨s, hs, rfl, rfl⟩

/-- The session under a key, with what its entry says of it. -/
theorem session?_of_bound (ho : Orderly p.registry) (hb : (key, n) ∈ p.registry.bound) :
    ∃ s entry, p.session? key = some (n, s) ∧ p.registry.entries[n]? = some entry ∧
      entry.stage.gate.isFired = false ∧ s.client = key ∧ Matches p.registry n entry s := by
  obtain ⟨entry, he, rfl, hfired⟩ := (ho.bound_iff key n).mp hb
  obtain ⟨s, hs, hm⟩ := ho.matched n entry he
  exact ⟨s, entry, (session?_eq_some_iff ho).mpr ⟨hb, hs⟩, he, hfired, hm.client, hm⟩

/-- A session that a client has is one that its entry matches. -/
theorem matches_of_session? (ho : Orderly p.registry) {s : Session}
    (hs : p.session? key = some (n, s)) :
    ∃ entry, p.registry.entries[n]? = some entry ∧ entry.stage.gate.isFired = false ∧ s.client = key ∧
      Matches p.registry n entry s := by
  obtain ⟨t, entry, ht, he, hfired, hclient, hm⟩ :=
    session?_of_bound ho ((session?_eq_some_iff ho).mp hs).1
  obtain rfl : t = s := congrArg Prod.snd (Option.some.inj (ht.symm.trans hs))
  exact ⟨entry, he, hfired, hclient, hm⟩

/-- A client whose key is not in use has no session. -/
theorem session?_of_not_mem (ho : Orderly p.registry) (hkey : key ∉ p.registry.keys) :
    p.session? key = none := by
  have hlookup : p.registry.lookup key = none := by
    rw [← Option.not_isSome_iff_eq_none, isSome_lookup_iff ho]
    exact hkey
  rw [session?, hlookup]
  rfl

/-- When the backend of a client's session is over the session ends. -/
theorem finishSession_of_bound (ho : Orderly p.registry) (hs : Settled p.registry)
    (hb : (key, n) ∈ p.registry.bound) :
    ∃ news r, p.finishSession key = some (news, { p with registry := r }) ∧ Settles [n] p.registry r ∧
      r.isFinished n = true := by
  obtain ⟨s, entry, hsession, -, -, -, hm⟩ := session?_of_bound ho hb
  obtain ⟨hsettles, hfinished⟩ := ho.finish hs n
  refine ⟨(p.registry.finish n).1, _, ?_, hsettles, hfinished (ho.latches ▸ ho.sound.bound_lt _ hb)⟩
  simp only [finishSession, hsession, Option.map_some, finishBackend, hm.backend]

omit [Backend β] in
/-- Another program that binds an address changes the host's sockets only. -/
theorem seize_ok {p' : Proxy β} {address bound : SocketAddress}
    (h : p.seize address = .ok (bound, p')) :
    ∃ host, p.registry.world.site.host.bind address = .ok (bound, host) ∧ p' = p.withFloor
      { p.registry.world with site := { p.registry.world.site with host := host } } := by
  unfold seize at h
  dsimp only at h
  cases hb : p.registry.world.site.host.bind address with
  | error fault =>
    rw [hb] at h
    cases h
  | ok result =>
    rw [hb] at h
    cases h
    exact ⟨_, rfl, rfl⟩

end Proxy

end MediaProxy
