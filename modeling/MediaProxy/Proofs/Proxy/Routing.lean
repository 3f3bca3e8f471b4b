import MediaProxy.Proofs.Proxy.Course
import MediaProxy.Proofs.Relay.Neighbours

/-!
# Where media goes

The host and the port of a request are joined into one text for each of the two relays, and each
relay takes its text apart for itself. Whatever the host is written like, a text that resolves does
so to an address of the host on the port that was joined to it, so both relays send to one address
(`Relay.sendsTo_of_search`). They receive on neighbouring ports, of which the media server is told
the first, unless the range begins at zero (`Relay.neighbours_of_search`). And the text for the
first relay is also what the client is known by, so a request with the same host and port finds just
this session again (`Scene.Fit.stopsOnly`).
-/

namespace MediaProxy

open Registry

/-! ## Relays on their way -/

namespace Relay

variable {host : Text} {port lowest highest : UInt16} {pair pair' : Pair} {s s' : Site}

/-- Two relays **send to** a host: the first to a port of it, and the second to the next port. -/
structure Pair.SendsTo (p : Pair) (host : Text) (port : UInt16) : Prop where
  located : locate host = .ok (p.rtp.target.ip, p.rtp.target.zone)
  rtp : p.rtp.target.port = port
  rtcp : p.rtcp.target.port.toNat = port.toNat + 1
  /-- Both send to one address. -/
  ip : p.rtcp.target.ip = p.rtp.target.ip
  zone : p.rtcp.target.zone = p.rtp.target.zone

/-- Two relays that keep their way keep their client. -/
theorem Pair.SameWay.sendsTo (h : pair.SameWay pair') (hp : pair.SendsTo host port) :
    pair'.SendsTo host port := by
  have hrtp : pair'.rtp.target = pair.rtp.target := h.target false
  have hrtcp : pair'.rtcp.target = pair.rtcp.target := h.target true
  obtain ⟨hlocated, hport, hnext, hip, hzone⟩ := hp
  rw [← hrtp] at hlocated hport hip hzone
  rw [← hrtcp] at hnext hip hzone
  exact ⟨hlocated, hport, hnext, hip, hzone⟩

/-- Two relays that keep their way stay neighbours. -/
theorem Pair.SameWay.neighbours (h : pair.SameWay pair') (hp : pair.Neighbours) : pair'.Neighbours := by
  have hrtp : pair'.rtp.inbound = pair.rtp.inbound := h.inbound false
  have hrtcp : pair'.rtcp.inbound = pair.rtcp.inbound := h.inbound true
  rwa [Neighbours, hrtp, hrtcp]

/-- A relay sends to what its target resolves to. -/
theorem target_of_tryOpen {inbound target : Text} {r : Relay} (h : tryOpen inbound target s = (.ok r, s')) :
    resolve target = .ok r.target := by
  unfold tryOpen at h
  split at h
  · cases h
  split at h
  · cases h
  next a ha =>
    split at h
    · cases h
    split at h
    · cases h
    · cases h
      exact ha

/-- Relays that have been allocated for two neighbouring ports of a host send there. No part of the
host is read as a port, and both texts name one address. -/
theorem sendsTo_of_search {relayHost : Text} (hport : port.toNat ≤ lastFirstPort)
    (h : search relayHost (joinHostPort host port) (joinHostPort host (port + 1)) lowest highest s =
      (.ok pair, s')) : pair.SendsTo host port := by
  obtain ⟨_, -, hpair⟩ := tryPair_of_search h
  obtain ⟨s₁, hrtp, hrtcp⟩ := tryOpen_of_tryPair hpair
  obtain ⟨hfirst, hport₁⟩ := resolve_joinHostPort (target_of_tryOpen hrtp)
  obtain ⟨hsecond, hport₂⟩ := resolve_joinHostPort (target_of_tryOpen hrtcp)
  have hsame := Except.ok.inj (hsecond.symm.trans hfirst)
  refine ⟨hfirst, hport₁, ?_, congrArg Prod.fst hsame, congrArg Prod.snd hsame⟩
  rw [hport₂, succ_toNat hport]

/-- Two relays that were found from a port of their own on are neighbours. -/
theorem neighbours_of_search {relayHost first second : Text} (hlowest : lowest ≠ 0)
    (h : search relayHost first second lowest highest s = (.ok pair, s')) : pair.Neighbours := by
  have hallocate : allocatePair relayHost first second lowest highest s = .ok (pair, s') := by
    rw [allocatePair, h]
    rfl
  exact (neighbours_iff hallocate).1.mpr fun hzero => hlowest hzero.1

end Relay

variable {β : Type} [Backend β]

namespace Proxy

/-- A request that can be met has a port with a successor, where the second relay sends to. -/
theorem prepare_ok {b : Basis} {request : Amp.StartRequest} {second : Text} {url : Url}
    (h : prepare b request = .ok (second, url)) :
    request.port.toNat ≤ Relay.lastFirstPort ∧
      second = joinHostPort request.host (request.port + 1) := by
  unfold prepare at h
  split at h
  · cases h
  next hport =>
    have hlast : (65535 : UInt16).toNat = 65535 := rfl
    have hlt := request.port.toNat_lt
    rw [← UInt16.toNat_inj, hlast] at hport
    cases hm : b.url.media request.media with
    | error fault =>
      rw [hm] at h
      cases h
    | ok found =>
      rw [hm] at h
      cases h
      exact ⟨by rw [Relay.lastFirstPort]; omega, rfl⟩

section Starting

variable {p : Proxy β} {request : Amp.StartRequest} {f : Floor β} {t : Session} {finished : Bool}

/-- A start that succeeds has relays that send to the client that asked. -/
theorem StartSucceeds.sendsTo (h : p.StartSucceeds request f t finished) :
    t.relays.SendsTo request.host request.port := by
  cases h with
  | launched _ hprepared hallocated =>
    obtain ⟨hport, rfl⟩ := prepare_ok hprepared
    exact (Relay.Pair.SameWay.begun _).sendsTo (Relay.sendsTo_of_search hport hallocated)

/-- A start that succeeds has relays that are neighbours. -/
theorem StartSucceeds.neighbours (h : p.StartSucceeds request f t finished) (hlowest : p.basis.lowest ≠ 0) :
    t.relays.Neighbours := by
  cases h with
  | launched _ _ hallocated =>
    exact (Relay.Pair.SameWay.begun _).neighbours (Relay.neighbours_of_search hlowest hallocated)

/-- The media server has had a backend, and was asked for media to the port of the first relay. -/
theorem StartSucceeds.connects (h : p.StartSucceeds request f t finished) :
    ∃ url log, t.url = url.render ∧
      (Backend.connect url t.relays.rtp.inbound.port log p.registry.world.backends).1 = .ok finished ∧
      f.journal = p.registry.world.journal ++ [.launched t.relays.rtp.inbound.port,
        .connecting t.relays.rtp.inbound.port url.render log] := by
  cases h with
  | launched _ _ _ hconnected =>
    exact ⟨_, _, rfl, congrArg Prod.fst hconnected, List.append_assoc ..⟩

end Starting

/-- What is left after exactly one session **has been stopped**. -/
structure StopsOnly (p : Proxy β) (client : ClientKey) (n : SessionId) (q : Proxy β) : Prop where
  /-- The client has no session any more. -/
  gone : q.session? client = none
  /-- The backend of the session is over, and its relays are closed. -/
  ended : q.registry.isFinished n = true ∧
    ∃ u, q.registry.world.sessions[n]? = some u ∧ ∀ control, (u.relays.side control).closed = true
  /-- The end of this session is all that is told. -/
  told : q.registry.world.journal = p.registry.world.journal ++ Event.ofEnd n false
  /-- Every other client has its session still. -/
  others : ∀ other m u, other ≠ client → p.session? other = some (m, u) → p.Undisturbed q other m u

/-- Stopping the session of a client stops just that one. -/
theorem stopsOnly_of_bound {p : Proxy β} (ho : Orderly p.registry) (hs : Settled p.registry)
    {request : Amp.StopRequest} {n : SessionId}
    (hb : (ClientKey.of request.host request.port, n) ∈ p.registry.bound) :
    ∃ q, p.stop request = (.ok (), q) ∧ p.StopsOnly (.of request.host request.port) n q := by
  obtain ⟨entry, he, hkey, harmed, hwork⟩ := ho.entry_of_bound hs hb
  obtain ⟨t, ht, hm⟩ := ho.matched n entry he
  have hended := ho.ended_eq he harmed ht
  have horderly := ho.orderly_ended he harmed
  have hover : (p.registry.ended n).entries[n]? =
      some { entry with stage := .concluded (.returns none) } := by
    rw [hended]
    simp [he]
  have hgone : ClientKey.of request.host request.port ∉ (p.registry.ended n).keys := by
    rw [hended, ← hkey]
    simp [keys]
  refine ⟨_, stop_eq ho hs hb, session?_of_not_mem horderly hgone,
    ⟨horderly.isFinished_of_concluded hover rfl, t.silenced p.registry.world.site, ?_,
      t.closed_silenced _⟩, ?_, ?_⟩
  · rw [hended]
    exact List.getElem?_set_self (List.getElem?_eq_some_iff.mp ht).1
  · rw [hended, hwork]
  · intro other m u hne hsession
    refine (confined_ended p.basis ho he harmed).undisturbed ho hs horderly hsession ?_
    rintro rfl
    exact hne (ho.key_unique ((session?_eq_some_iff ho).mp hsession).1 hb)

end Proxy

/-! ## A start and what follows -/

namespace Scene

variable {s : Scene β} {targets : List SocketAddress} {request : Amp.StartRequest} {p' : Proxy β}

/-- A start has **routed** media to the client that asked for it, by a session that has been
registered. -/
structure Routes (s : Scene β) (request : Amp.StartRequest) (t : Session) (p' : Proxy β) : Prop where
  client : t.client = .of request.host request.port
  /-- The session is one more, and no other has changed. -/
  session : p'.registry.world.sessions = s.proxy.registry.world.sessions ++ [t]
  /-- The client has the session, unless that is over already. -/
  registered : p'.session? t.client = some (s.proxy.registry.world.sessions.length, t) ∨
    p'.registry.isFinished t.backend = true
  sends : t.relays.SendsTo request.host request.port
  neighbours : t.relays.Neighbours
  /-- The media server has been asked, once, for media to the port where the first relay receives;
  both relays had been started by then, and the session was registered and announced after. -/
  connected : ∃ url log finished, t.url = url.render ∧
    (Backend.connect url t.relays.rtp.inbound.port log s.proxy.registry.world.backends).1 = .ok finished ∧
    ∃ ends, p'.registry.world.journal = s.proxy.registry.world.journal ++
      .launched t.relays.rtp.inbound.port :: .connecting t.relays.rtp.inbound.port url.render log ::
        .registered s.proxy.registry.world.sessions.length ::
          .started s.proxy.registry.world.sessions.length :: ends ∧ ∀ e ∈ ends, e.Regards t.backend t.backend
  /-- Whatever happens then, its relays receive and send where they did. -/
  lasts : ∀ later, p'.registry.world.KeepsCourse
    (Scene.run ⟨p', s.others⟩ later).proxy.registry.world
  /-- Whatever happens then, as long as the client has the session a stop stops that and no other.
  -/
  stops : ∀ later u, (Scene.run ⟨p', s.others⟩ later).proxy.session? t.client =
      some (s.proxy.registry.world.sessions.length, u) →
    ∃ q, (Scene.run ⟨p', s.others⟩ later).proxy.stop ⟨request.host, request.port⟩ = (.ok (), q) ∧
      (Scene.run ⟨p', s.others⟩ later).proxy.StopsOnly t.client s.proxy.registry.world.sessions.length q

/-- The settings of a proxy are what they were. -/
theorem Fit.basis_run (h : s.Fit targets) (orders : List Order) :
    (s.run orders).proxy.basis = s.proxy.basis := by
  refine run_induction (P := fun s' => s'.proxy.basis = s.proxy.basis) h rfl ?_ orders
  intro s order reply s' _ hs hd
  cases hd <;> exact hs

/-- As long as a client has a session, a stop stops just that. -/
theorem Fit.stopsOnly (h : s.Fit targets) {host : Text} {port : UInt16} {n : SessionId} {u : Session}
    (hsession : s.proxy.session? (.of host port) = some (n, u)) :
    ∃ q, s.proxy.stop ⟨host, port⟩ = (.ok (), q) ∧ s.proxy.StopsOnly (.of host port) n q :=
  Proxy.stopsOnly_of_bound h.orderly h.settled
    ((Proxy.session?_eq_some_iff h.orderly).mp hsession).1

/-- A start that succeeds routes its media to the client that asked, for as long as it lasts. -/
theorem Fit.routes (h : s.Fit targets) (hlowest : s.proxy.basis.lowest ≠ 0)
    (hstart : s.proxy.start request = (.ok (), p')) : ∃ t, s.Routes request t p' := by
  obtain ⟨f, t, finished, hsucceeds, rfl⟩ := Proxy.of_start_ok h.orderly hstart
  have hl := hsucceeds.launches
  have hkey := hsucceeds.client_not_mem
  have hsessions := hl.sessions_registryAfter h.orderly h.settled hkey finished
  have hjournal := hl.journal_registryAfter h.orderly h.settled hkey finished
  have hnext : (s.obey (.start request)).2 =
      ⟨⟨s.proxy.basis, s.proxy.registryAfter f t finished⟩, s.others⟩ := by
    simp only [Scene.obey, hstart]
  have hfit := h.obey (.start request)
  rw [hnext] at hfit
  obtain ⟨url, log, hurl, hconnected, hfloor⟩ := hsucceeds.connects
  have hnumber := h.orderly.sessions
  have hbackend : t.backend = s.proxy.registry.world.sessions.length := by
    rw [hl.backend, h.orderly.latches, hnumber]
  rw [hfloor, List.append_assoc, ← hnumber] at hjournal
  -- What has been registered, or what has become of it since.
  have hcourse : ∃ t', t' = (if finished then t.silenced f.site else t) ∧ t'.client = t.client ∧
      t'.backend = t.backend ∧ t'.url = t.url ∧ t.relays.SameWay t'.relays := by
    cases finished with
    | false => exact ⟨t, rfl, rfl, rfl, rfl, .refl t.relays⟩
    | true => exact ⟨t.silenced f.site, rfl, rfl, rfl, rfl, .close t.relays f.site⟩
  obtain ⟨t', ht', hclient, hbackend', hurl', hway⟩ := hcourse
  have hport : t'.relays.rtp.inbound.port = t.relays.rtp.inbound.port :=
    congrArg SocketAddress.port (hway.inbound false)
  rw [← ht'] at hsessions
  refine ⟨t', hclient.trans hl.client, hsessions, ?_, hway.sendsTo hsucceeds.sendsTo,
    hway.neighbours (hsucceeds.neighbours hlowest),
    ⟨url, log, finished, hurl'.trans hurl, by rwa [hport], _, by rw [hjournal, hport]; rfl, ?_⟩,
    hfit.keepsCourse, ?_⟩
  · obtain ⟨henlists, -⟩ := hl.enlists h.orderly h.settled hkey finished
    rw [hclient, hbackend', hbackend, hnumber]
    cases finished with
    | true => exact .inr henlists.finished
    | false =>
      refine .inl ((Proxy.session?_eq_some_iff hfit.orderly).mpr ⟨?_, ?_⟩)
      · exact (henlists.bound_iff h.orderly).mpr (.inr ⟨rfl, rfl, rfl⟩)
      · rw [hsessions, ← hnumber]
        exact List.getElem?_concat_length ..
  · rw [hbackend', hbackend]
    cases finished with
    | false => exact List.forall_mem_nil _
    | true => exact fun e he => regards_of_mem_ofEnd he
  · intro later u hu
    rw [hclient, hl.client] at hu ⊢
    exact (hfit.run later).stopsOnly hu

end Scene

/-- **Media goes to the client that asked for it.** Whatever has happened to a proxy before, on any
host and in front of any media server, and whatever the host of a request is written like: a start
that succeeds has routed media to that host on the port of the request, and to no other. -/
theorem start_routes_media (basis : Basis) (hlowest : basis.lowest ≠ 0) (host : Host) (backends : β)
    (orders : List Order) {request : Amp.StartRequest} {p' : Proxy β}
    (hstart : ((Scene.idle basis host backends).run orders).proxy.start request = (.ok (), p')) :
    ∃ t, ((Scene.idle basis host backends).run orders).Routes request t p' := by
  have hidle := Scene.fit_idle basis host backends
  refine (hidle.run orders).routes ?_ hstart
  rw [hidle.basis_run orders]
  exact hlowest

/-- A host with colons is put in brackets and taken out of them again, once for each relay. -/
theorem start_routes_media_bracketed :
    let request : Amp.StartRequest := ⟨"fe80::5%3".toList, 6200, "c.ts".toList⟩
    loopbackBasis.lowest ≠ 0 ∧ (deafServed.proxy.start request).1 = .ok () ∧
      ∃ t, deafServed.Routes request t (deafServed.proxy.start request).2 := by
  intro request
  have hlowest : loopbackBasis.lowest ≠ 0 := by decide
  have hstarts : (deafServed.proxy.start request).1 = .ok () := by decide +kernel
  exact ⟨hlowest, hstarts,
    start_routes_media loopbackBasis hlowest .idle _ deafClient (Prod.ext hstarts rfl)⟩

end MediaProxy
