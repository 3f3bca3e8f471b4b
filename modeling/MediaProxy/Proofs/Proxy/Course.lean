import MediaProxy.Proofs.Proxy.Sockets
import MediaProxy.Proofs.Proxy.Undisturbed

/-!
# Relays keep to their course

A relay receives at one address and sends to one target from the moment it is made. Whatever happens
to a proxy, no relay of any session is ever given another address or another target
(`Scene.Fit.keepsCourse`): relays are started and closed, and count what they send, and that is all.
So where media goes is settled when a session is registered.
-/

namespace MediaProxy

open Registry

namespace Relay

variable {r r' : Relay} {s s' : Site} {p : Option Text → Prop}

/-- Relays between the same **addresses** as others. -/
structure Pair.SameWay (p p' : Pair) : Prop where
  inbound : ∀ control, (p'.side control).inbound = (p.side control).inbound
  target : ∀ control, (p'.side control).target = (p.side control).target

/-- A relay keeps its target, whatever it does. -/
theorem Evolves.target (h : Evolves p r s r' s') : r'.target = r.target := by
  cases h <;> assumption

namespace Pair.SameWay

variable {pair pair' pair'' : Pair}

theorem refl (pair : Pair) : pair.SameWay pair := ⟨fun _ => rfl, fun _ => rfl⟩

theorem trans (h : pair.SameWay pair') (h' : pair'.SameWay pair'') : pair.SameWay pair'' :=
  ⟨fun control => (h'.inbound control).trans (h.inbound control),
    fun control => (h'.target control).trans (h.target control)⟩

/-- Two relays keep their way when one of them goes on. -/
theorem setSide (pair : Pair) (control : Bool) (he : Evolves p (pair.side control) s r' s') :
    pair.SameWay (pair.setSide control r') := by
  have hside (side : Bool) : ((pair.setSide control r').side side).inbound = (pair.side side).inbound ∧
      ((pair.setSide control r').side side).target = (pair.side side).target := by
    by_cases h : side = control
    · subst h
      simpa using And.intro he.inbound he.target
    · obtain rfl : side = !control := by cases side <;> cases control <;> simp_all
      simp
  exact ⟨fun side => (hside side).1, fun side => (hside side).2⟩

/-- Two relays keep their way when they are started. -/
theorem begun (pair : Pair) : pair.SameWay pair.begun :=
  ⟨fun control => by cases control <;> rfl, fun control => by cases control <;> rfl⟩

/-- Two relays keep their way when they are closed. -/
theorem close (pair : Pair) (s : Site) : pair.SameWay (pair.close s).1 :=
  (setSide pair false (evolves_shutdown none pair.rtp s)).trans
    (setSide _ true (evolves_shutdown none pair.rtcp _))

end Pair.SameWay

end Relay

variable {β : Type}

/-- On a floor every session that there was on another **keeps to its course**: its relays receive
and send where they did. -/
def Floor.KeepsCourse (f f' : Floor β) : Prop :=
  ∀ (n : SessionId) (t : Session), f.sessions[n]? = some t →
    ∃ t', f'.sessions[n]? = some t' ∧ t.relays.SameWay t'.relays

namespace Floor.KeepsCourse

variable {f f' f'' : Floor β} {n : SessionId} {t t' : Session}

theorem of_eq (h : f'.sessions = f.sessions) : f.KeepsCourse f' :=
  fun _ t ht => ⟨t, h ▸ ht, .refl t.relays⟩

theorem trans (h : f.KeepsCourse f') (h' : f'.KeepsCourse f'') : f.KeepsCourse f'' := by
  intro n t ht
  obtain ⟨t', ht', hway⟩ := h n t ht
  obtain ⟨t'', ht'', hway'⟩ := h' n t' ht'
  exact ⟨t'', ht'', hway.trans hway'⟩

/-- One session more leaves the others on their course. -/
theorem concat (h : f'.sessions = f.sessions ++ [t]) : f.KeepsCourse f' := by
  intro n u hu
  refine ⟨u, ?_, .refl u.relays⟩
  rw [h, List.getElem?_append_left (List.getElem?_eq_some_iff.mp hu).1, hu]

/-- A session whose relays keep their way is on its course, and so are all others. -/
theorem set (ht : f.sessions[n]? = some t) (hway : t.relays.SameWay t'.relays)
    (h : f'.sessions = f.sessions.set n t') : f.KeepsCourse f' := by
  intro m u hu
  rw [h, List.getElem?_set]
  by_cases hm : n = m
  · subst hm
    obtain rfl : t = u := Option.some.inj (ht.symm.trans hu)
    exact ⟨t', by simp [(List.getElem?_eq_some_iff.mp ht).1], hway⟩
  · exact ⟨u, by rw [if_neg hm]; exact hu, .refl u.relays⟩

end Floor.KeepsCourse

namespace Proxy

variable {p : Proxy β}

/-! ## What relays do by themselves -/

/-- No session leaves its course because a relay fails. -/
theorem keepsCourse_failAt (n : SessionId) (control : Bool) (reason : Text) (p : Proxy β) :
    p.registry.world.KeepsCourse (p.failAt n control reason).registry.world := by
  unfold failAt
  split
  · exact .of_eq rfl
  next s hs => exact .set hs (.setSide s.relays control (Relay.evolves_shutdown ..)) rfl

/-- No session leaves its course because a datagram arrives. -/
theorem keepsCourse_arriveAt (n : SessionId) (control : Bool) (datagram : Bytes) (p : Proxy β) :
    p.registry.world.KeepsCourse (p.arriveAt n control datagram).2.registry.world := by
  unfold arriveAt
  split
  · exact .of_eq rfl
  next s hs => exact .set hs (.setSide s.relays control (Relay.evolves_arrive ..)) rfl

theorem keepsCourse_foldl {α : Type} (f : Proxy β → α → Proxy β)
    (hf : ∀ (p : Proxy β) (a : α), p.registry.world.KeepsCourse (f p a).registry.world) (as : List α)
    (p : Proxy β) : p.registry.world.KeepsCourse (as.foldl f p).registry.world := by
  induction as generalizing p with
  | nil => exact .of_eq rfl
  | cons a as ih => exact (hf p a).trans (ih _)

/-- No session leaves its course because datagrams are sent to relays of the proxy itself. -/
theorem keepsCourse_passOn (relays : Nat) (target : SocketAddress) (sent : List Delivery) (p : Proxy β) :
    p.registry.world.KeepsCourse (p.passOn relays target sent).registry.world := by
  induction relays generalizing target sent p with
  | zero => exact .of_eq rfl
  | succ relays ih =>
    refine keepsCourse_foldl _ ?_ _ p
    intro p delivery
    split
    · exact .of_eq rfl
    · exact .trans (keepsCourse_arriveAt _ _ _ p) (ih _ _ _)

/-! ## What is asked of a proxy -/

variable [Backend β]

/-- No session leaves its course because one of them ends. -/
theorem keepsCourse_ended {r : Sessions β} {n : SessionId} {entry : Entry ClientKey} (h : Orderly r)
    (he : r.entries[n]? = some entry) (harmed : entry.stage = .armed) :
    r.world.KeepsCourse (r.ended n).world := by
  obtain ⟨t, ht, -⟩ := h.matched n entry he
  rw [h.ended_eq he harmed ht]
  exact .set ht (.close t.relays r.world.site) rfl

/-- No session leaves its course because a client asks for media. -/
theorem keepsCourse_start (ho : Orderly p.registry) (hs : Settled p.registry) (request : Amp.StartRequest) :
    p.registry.world.KeepsCourse (p.start request).2.registry.world := by
  cases hstart : p.start request with
  | mk result p' =>
  cases result with
  | error fault =>
    cases of_start_error ho hstart with
    | unasked => exact .of_eq rfl
    | turned_down => exact .of_eq rfl
  | ok =>
    obtain ⟨f, s, finished, hsucceeds, rfl⟩ := of_start_ok ho hstart
    exact .concat
      (hsucceeds.launches.sessions_registryAfter ho hs hsucceeds.client_not_mem finished)

/-- No session leaves its course because a client asks for an end. -/
theorem keepsCourse_stop (ho : Orderly p.registry) (hs : Settled p.registry) (request : Amp.StopRequest) :
    p.registry.world.KeepsCourse (p.stop request).2.registry.world := by
  rcases p.bound_or_not_mem (.of request.host request.port) with ⟨n, hb⟩ | hkey
  · obtain ⟨entry, he, -, harmed, -⟩ := ho.entry_of_bound hs hb
    rw [stop_eq ho hs hb]
    exact keepsCourse_ended ho he harmed
  · rw [stop_of_not_mem hs hkey]
    exact .of_eq rfl

/-- No session leaves its course because a backend is over. -/
theorem keepsCourse_finishSession (ho : Orderly p.registry) (hs : Settled p.registry) (client : ClientKey) :
    p.registry.world.KeepsCourse (((p.finishSession client).map Prod.snd).getD p).registry.world := by
  rcases p.bound_or_not_mem client with ⟨n, hb⟩ | hkey
  · obtain ⟨entry, he, -, harmed, -⟩ := ho.entry_of_bound hs hb
    have he' : (p.registry.finish n).2.entries[n]? = some entry := by rwa [entries_finish]
    rw [finishSession_eq ho hs hb]
    have hended := keepsCourse_ended (ho.finish_unsettled n) he' harmed
    rwa [world_finish] at hended
  · rw [finishSession, session?_of_not_mem ho hkey]
    exact .of_eq rfl

/-- A stop of all sessions **ends** them one after another. -/
theorem stopAll_ended (ho : Orderly p.registry) (hs : Settled p.registry) :
    p.stopAll = (p.registry.bound.length,
      { p with registry := (p.registry.bound.map Prod.snd).foldl (fun r n => r.ended n) p.registry }) := by
  obtain ⟨r, heach, hsettles, hfinished⟩ := ho.stopEach hs (p.registry.bound.map Prod.snd) fun n hn => by
    obtain ⟨b, hb, rfl⟩ := List.mem_map.mp hn
    exact ho.sound.bound_lt b hb
  have hsame : r = (p.registry.bound.map Prod.snd).foldl (fun r n => r.ended n) p.registry := by
    rw [ho.stopEach_eq hs ho.ids_nodup (ho.armed_bound hs)] at heach
    exact (congrArg Prod.snd (Option.some.inj heach)).symm
  have hstop : Registry.stopAll Session.contract p.registry = some (.ok p.registry.bound.length, r) := by
    rw [Registry.stopAll, heach, List.length_map]
    simp only [hsettles.orderly.foldl_remove hsettles.settled _ hfinished]
  rw [← hsame]
  unfold stopAll
  simp only [hstop, settle_of_settled hsettles.settled]

/-- No session leaves its course when all of them are stopped. -/
theorem keepsCourse_stopAll (ho : Orderly p.registry) (hs : Settled p.registry) :
    p.registry.world.KeepsCourse p.stopAll.2.registry.world := by
  rw [stopAll_ended ho hs]
  exact ho.foldl_ended_induction (P := fun r => p.registry.world.KeepsCourse r.world) hs ho.ids_nodup
    (ho.armed_bound hs) (.of_eq rfl) fun r n entry h he harmed hr => hr.trans (keepsCourse_ended h he harmed)

end Proxy

/-! ## Whatever happens -/

namespace Scene

variable [Backend β] {s : Scene β} {targets : List SocketAddress}

/-- Whatever is ordered, all sessions stay on their course. -/
theorem Fit.keepsCourse_obey (h : s.Fit targets) (order : Order) :
    s.proxy.registry.world.KeepsCourse (s.obey order).2.proxy.registry.world := by
  cases order with
  | start request =>
    rw [proxy_obey_start]
    exact Proxy.keepsCourse_start h.orderly h.settled request
  | stop request =>
    rw [proxy_obey_stop]
    exact Proxy.keepsCourse_stop h.orderly h.settled request
  | stopAll => exact Proxy.keepsCourse_stopAll h.orderly h.settled
  | ends client => exact Proxy.keepsCourse_finishSession h.orderly h.settled client
  | media client control datagram =>
    rw [Scene.obey, Proxy.media]
    cases s.proxy.session? client with
    | none => exact .of_eq rfl
    | some found =>
      exact .trans (Proxy.keepsCourse_arriveAt _ _ _ _) (Proxy.keepsCourse_passOn _ _ _ _)
  | fail client control reason =>
    rw [Scene.obey]
    cases s.proxy.session? client with
    | none => exact .of_eq rfl
    | some found => exact Proxy.keepsCourse_failAt _ _ _ _
  | occupy address =>
    rw [Scene.obey]
    split
    next bound p hp =>
      obtain ⟨host, -, rfl⟩ := Proxy.seize_ok hp
      exact .of_eq rfl
    next => exact .of_eq rfl
  | vacate address =>
    rw [Scene.obey]
    split
    · exact .of_eq rfl
    · exact .of_eq rfl

/-- **Every relay keeps to its course**, whatever happens. -/
theorem Fit.keepsCourse (h : s.Fit targets) (orders : List Order) :
    s.proxy.registry.world.KeepsCourse (s.run orders).proxy.registry.world := by
  induction orders generalizing s with
  | nil => exact .of_eq rfl
  | cons order rest ih => exact (h.keepsCourse_obey order).trans (ih (h.obey order))

end Scene

end MediaProxy
