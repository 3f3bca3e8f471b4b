import MediaProxy.Proofs.Proxy.Clients
import MediaProxy.Proofs.Proxy.Launching

/-!
# Clients that are left alone

All sessions of a proxy are in one registry, on one host, in front of one media server. But whatever
one client asks for, and whatever becomes of its session, has to do with one session only
(`Proxy.ConfinedTo`): the one that is registered, or ends, or has a relay fail. So every other
client keeps its session, to the last detail and with its backend at work, and nobody is told
anything of it (`Proxy.Undisturbed`, `Scene.Fit.undisturbed`).
-/

namespace MediaProxy

open Registry

/-- Whether an event **regards** a session or its backend. -/
def Event.Regards (n : SessionId) (w : WorkerId) : Event → Prop
  | .launched _ | .connecting .. | .givenUp _ => False
  | .registered m | .started m | .silenced m _ | .ended m .. | .removed m => m = n
  | .halting b _ => b = w

/-- The end of a session regards that session. -/
theorem regards_of_mem_ofEnd {n : SessionId} {late : Bool} {e : Event} (he : e ∈ Event.ofEnd n late) :
    e.Regards n n := by
  simp only [Event.ofEnd, List.mem_cons, List.not_mem_nil, or_false] at he
  rcases he with rfl | rfl | rfl | rfl | rfl <;> rfl

/-- No event regards two sessions. -/
theorem regards_unique {m n : SessionId} {e : Event} (hm : e.Regards m m) (hn : e.Regards n n) :
    m = n := by
  cases e with
  | launched | connecting | givenUp => cases hm
  | _ => exact hm.symm.trans hn

variable {β : Type} [Backend β]

/-- The media server has been asked for some things, but not to stop the backend of a number. -/
inductive Spares (w : WorkerId) (b : β) : β → Prop
  | refl : Spares w b b
  | connect {b' b'' : β} {url : Url} {port : UInt16} {log : Option Text} {result : Except Fault Bool}
      (connected : Backend.connect url port log b' = (result, b'')) (h : Spares w b b') : Spares w b b''
  | halt {b' : β} {other : WorkerId} (hne : other ≠ w) (h : Spares w b b') :
      Spares w b (Backend.halt other b')

namespace Spares

variable {w : WorkerId} {b b' b'' : β}

theorem trans (h : Spares w b b') (h' : Spares w b' b'') : Spares w b b'' := by
  induction h' with
  | refl => exact h
  | connect connected _ ih => exact .connect connected ih
  | halt hne _ ih => exact .halt hne ih

end Spares

namespace Proxy

variable {p p' p'' : Proxy β} {m n : SessionId} {client : ClientKey} {t : Session}

/-- A client's session is **undisturbed** by what has happened. -/
structure Undisturbed (p p' : Proxy β) (client : ClientKey) (n : SessionId) (t : Session) : Prop where
  /-- The client has the same session, with the same backend and with relays that are the same:
  where they receive and send, whether they are open, their errors and what they have counted. -/
  session : p'.session? client = some (n, t)
  /-- The backend is still at work. -/
  atWork : p.registry.isFinished t.backend = false ∧ p'.registry.isFinished t.backend = false
  /-- Nobody has asked it to stop. -/
  spared : Spares t.backend p.registry.world.backends p'.registry.world.backends
  /-- Nothing is told of the session or its backend. -/
  quiet : ∃ news, p'.registry.world.journal = p.registry.world.journal ++ news ∧
    ∀ e ∈ news, ¬ e.Regards n t.backend

/-- What has happened to a proxy is **confined to** one session. -/
structure ConfinedTo (m : SessionId) (p p' : Proxy β) : Prop where
  aside : Aside [m] p.registry p'.registry
  spares : ∀ w ≠ m, Spares w p.registry.world.backends p'.registry.world.backends
  quiet : ∃ news, p'.registry.world.journal = p.registry.world.journal ++ news ∧
    ∀ e ∈ news, ∀ n ≠ m, ¬ e.Regards n n

namespace ConfinedTo

theorem refl (m : SessionId) (p : Proxy β) : ConfinedTo m p p :=
  ⟨.refl _ _, fun _ _ => .refl, [], (List.append_nil _).symm, by simp⟩

theorem trans (h : ConfinedTo m p p') (h' : ConfinedTo m p' p'') : ConfinedTo m p p'' := by
  obtain ⟨news, hnews, hquiet⟩ := h.quiet
  obtain ⟨news', hnews', hquiet'⟩ := h'.quiet
  refine ⟨h.aside.next h'.aside, fun w hw => (h.spares w hw).trans (h'.spares w hw), news ++ news', ?_, ?_⟩
  · rw [hnews', hnews, List.append_assoc]
  · intro e he
    rcases List.mem_append.mp he with he | he
    · exact hquiet e he
    · exact hquiet' e he

/-- What is confined to one session leaves any other undisturbed. -/
theorem undisturbed (h : ConfinedTo m p p') (ho : Orderly p.registry) (hs : Settled p.registry)
    (ho' : Orderly p'.registry) (hsession : p.session? client = some (n, t)) (hne : n ≠ m) :
    p.Undisturbed p' client n t := by
  obtain ⟨entry, he, hfired, hclient, hm⟩ := matches_of_session? ho hsession
  have ht := ((session?_eq_some_iff ho).mp hsession).2
  have hkey : entry.key = client := hm.client.symm.trans hclient
  have hnot : n ∉ [m] := by simpa using hne
  have hwork := (ho.armed hs he hfired).2
  obtain ⟨news, hnews, hquiet⟩ := h.quiet
  refine {
    session := ?session
    atWork := ?atWork
    spared := hm.backend ▸ h.spares n hne
    quiet := ⟨news, hnews, ?quiet⟩ }
  case session =>
    have hbound : (client, n) ∈ p'.registry.bound :=
      (ho'.bound_iff client n).mpr ⟨entry, (h.aside.entries n hnot).trans he, hkey, hfired⟩
    exact (session?_eq_some_iff ho').mpr ⟨hbound, (h.aside.sessions n hnot).trans ht⟩
  case atWork =>
    rw [hm.backend]
    exact ⟨hwork, (h.aside.finished n hnot).trans hwork⟩
  case quiet =>
    rw [hm.backend]
    exact fun e he => hquiet e he n hne

end ConfinedTo

/-! ## One operation, one session -/

/-- The end of a session is confined to it. -/
theorem confined_ended {r : Sessions β} {entry : Entry ClientKey} (basis : Basis) (h : Orderly r)
    (he : r.entries[n]? = some entry) (hs : entry.stage = .armed) :
    ConfinedTo n ⟨basis, r⟩ ⟨basis, r.ended n⟩ := by
  obtain ⟨s, hsession, -⟩ := h.matched n entry he
  have heq := h.ended_eq he hs hsession
  refine ⟨h.aside_ended he hs, fun w hw => ?_, Event.ofEnd n (r.isFinished n), ?_, ?_⟩
  · rw [heq]
    exact .halt hw.symm (.halt hw.symm .refl)
  · rw [heq]
  · intro e he k hk
    have hown := regards_of_mem_ofEnd he
    exact fun hother => hk (regards_unique hother hown)

/-- A start is confined to the session that it leads to. -/
theorem StartSucceeds.confined_enlisting {request : Amp.StartRequest} {f : Floor β} {s : Session}
    {finished : Bool} (h : p.StartSucceeds request f s finished) (ho : Orderly p.registry) :
    ConfinedTo p.registry.entries.length p ⟨p.basis, p.enlisting f s finished⟩ := by
  have hl := h.launches
  have hnone := h.client_not_mem
  have haside := hl.aside_enlisting ho finished
  have hsessions := hl.sessions
  cases h with
  | @launched second url relays site _ backends _ _ _ connected =>
    have hworld := hl.world_enlisting ho hnone finished
    refine ⟨⟨haside.entries, fun n hn => (haside.sessions n hn).trans (congrArg (·[n]?) hsessions),
      haside.finished⟩, fun w _ => ?_,
      [.launched relays.rtp.inbound.port, .connecting relays.rtp.inbound.port url.render
        (p.basis.logPath relays.rtp.inbound.port request.media), .registered p.registry.entries.length,
        .started p.registry.entries.length], ?_, ?_⟩
    · rw [hworld]
      exact .connect connected .refl
    · rw [hworld]
      simp [calling, launching, withFloor, Floor.note]
    · intro e he n hn
      simp only [List.mem_cons, List.not_mem_nil, or_false] at he
      rcases he with rfl | rfl | rfl | rfl
      · exact not_false
      · exact not_false
      · exact hn.symm
      · exact hn.symm

/-- A start has to do with the session that there is one more, if there is one. -/
theorem confined_start (ho : Orderly p.registry) (hs : Settled p.registry) (request : Amp.StartRequest) :
    ConfinedTo p.registry.entries.length p (p.start request).2 := by
  cases hstart : p.start request with
  | mk result p' =>
  cases result with
  | error fault =>
    cases of_start_error ho hstart with
    | unasked => exact .refl _ p
    | turned_down _ _ hrefused =>
      refine ⟨⟨fun _ _ => rfl, fun _ _ => rfl, fun _ _ => rfl⟩, fun w _ => ?_, _, rfl, ?_⟩
      · exact .connect hrefused .refl
      · simp [Event.Regards]
  | ok =>
    obtain ⟨f, s, finished, hsucceeds, rfl⟩ := of_start_ok ho hstart
    have hl := hsucceeds.launches
    have hkey := hsucceeds.client_not_mem
    rw [hl.registryAfter_eq ho hs hkey]
    cases finished with
    | false => exact hsucceeds.confined_enlisting ho
    | true =>
      obtain ⟨entry, he, harmed, -⟩ := p.enlisting_entry f s true
      exact (hsucceeds.confined_enlisting ho).trans
        (confined_ended p.basis (hl.orderly_enlisting ho hkey true) he harmed)

/-- A stop has to do with the session that it ends, or with none. -/
theorem confined_stop (ho : Orderly p.registry) (hs : Settled p.registry) {request : Amp.StopRequest}
    (hm : ∀ n, (ClientKey.of request.host request.port, n) ∈ p.registry.bound → n = m) :
    ConfinedTo m p (p.stop request).2 := by
  rcases p.bound_or_not_mem (.of request.host request.port) with ⟨n, hb⟩ | hkey
  · obtain ⟨entry, he, -, harmed, -⟩ := ho.entry_of_bound hs hb
    obtain rfl := hm n hb
    rw [stop_eq ho hs hb]
    exact confined_ended p.basis ho he harmed
  · rw [stop_of_not_mem hs hkey]
    exact .refl m p

/-- A backend that is over is no matter of any other session. -/
theorem confined_finish (n : SessionId) (p : Proxy β) :
    ConfinedTo n p { p with registry := (p.registry.finish n).2 } := by
  refine ⟨aside_finish p.registry n, fun w _ => ?_, [], ?_, by simp⟩
  · rw [world_finish]
    exact .refl
  · rw [world_finish, List.append_nil]

/-- The end of a backend has to do with the session of that, if there is one. -/
theorem confined_finishSession (ho : Orderly p.registry) (hs : Settled p.registry)
    (hm : ∀ n, (client, n) ∈ p.registry.bound → n = m) :
    ConfinedTo m p (((p.finishSession client).map Prod.snd).getD p) := by
  rcases p.bound_or_not_mem client with ⟨n, hb⟩ | hkey
  · obtain ⟨entry, he, -, harmed, -⟩ := ho.entry_of_bound hs hb
    obtain rfl := hm n hb
    have he' : (p.registry.finish n).2.entries[n]? = some entry := by rwa [entries_finish]
    rw [finishSession_eq ho hs hb]
    exact (confined_finish n p).trans
      (confined_ended p.basis (ho.finish_unsettled n) he' harmed)
  · rw [finishSession, session?_of_not_mem ho hkey]
    exact .refl m p

omit [Backend β] in
/-- What changes one session and the site changes no other session. -/
theorem aside_setSession (f : Floor β) (t : Session) (site : Site) (m : SessionId)
    (hf : f = p.registry.world) :
    Aside [m] p.registry (p.withFloor ({ f with site := site }.setSession m t)).registry := by
  refine ⟨fun _ _ => rfl, fun n hn => ?_, fun _ _ => rfl⟩
  have hne : m ≠ n := fun h => hn (h ▸ List.mem_singleton_self m)
  simp [withFloor, Floor.setSession, hf, hne]

/-- A relay that fails is no matter of any other session. -/
theorem confined_failAt (n : SessionId) (control : Bool) (reason : Text) (p : Proxy β) :
    ConfinedTo n p (p.failAt n control reason) := by
  unfold failAt
  split
  · exact .refl n p
  · exact ⟨aside_setSession _ _ _ n rfl, fun _ _ => .refl, [], (List.append_nil _).symm, by simp⟩

/-- A datagram is no matter of any session but that of the relay where it arrives. -/
theorem confined_arriveAt (n : SessionId) (control : Bool) (datagram : Bytes) (p : Proxy β) :
    ConfinedTo n p (p.arriveAt n control datagram).2 := by
  unfold arriveAt
  split
  · exact .refl n p
  · exact ⟨aside_setSession _ _ _ n rfl, fun _ _ => .refl, [], (List.append_nil _).symm, by simp⟩

omit [Backend β] in
/-- What reaches nobody is passed on to nobody. -/
theorem passOn_of_unreceived {sent : List Delivery} (hlost : ∀ d ∈ sent, d.received = false)
    (relays : Nat) (target : SocketAddress) (p : Proxy β) : p.passOn relays target sent = p := by
  cases relays with
  | zero => rfl
  | succ relays =>
    have hnone : sent.filter Delivery.received = [] :=
      List.filter_eq_nil_iff.mpr fun d hd => by simp [hlost d hd]
    rw [passOn, hnone, List.foldl_nil]

end Proxy

/-! ## Whatever concerns one client -/

/-- A number is under one key only. -/
theorem Registry.Orderly.key_unique {r : Sessions β} (h : Orderly r) {key key' : ClientKey} {n : SessionId}
    (hn : (key, n) ∈ r.bound) (hn' : (key', n) ∈ r.bound) : key = key' := by
  obtain ⟨entry, he, rfl, -⟩ := (h.bound_iff key n).mp hn
  obtain ⟨entry', he', rfl, -⟩ := (h.bound_iff key' n).mp hn'
  rw [Option.some.inj (he.symm.trans he')]

namespace Scene

variable {s : Scene β} {targets : List SocketAddress} {key client : ClientKey} {order : Order}
  {n : SessionId} {t : Session}

/-- Whether an order **concerns** one client: its requests, the end of its backend, and what its
relays fail at. A datagram at its relays concerns it alone if it reaches nobody, and such a datagram
closes a relay that has been told so. -/
inductive Concerns (s : Scene β) (key : ClientKey) : Order → Prop
  | start {request : Amp.StartRequest} (his : .of request.host request.port = key) :
      Concerns s key (.start request)
  | stop {request : Amp.StopRequest} (his : .of request.host request.port = key) :
      Concerns s key (.stop request)
  | ends : Concerns s key (.ends key)
  | fail (control : Bool) (reason : Text) : Concerns s key (.fail key control reason)
  | media {control : Bool} {datagram : Bytes}
      (lost : ∀ n t, s.proxy.session? key = some (n, t) →
        ∀ d ∈ (s.proxy.arriveAt n control datagram).1, d.received = false) :
      Concerns s key (.media key control datagram)

theorem proxy_obey_start (s : Scene β) (request : Amp.StartRequest) :
    (s.obey (.start request)).2.proxy = (s.proxy.start request).2 := by
  rw [obey]
  split
  next h => rw [h]
  next h => rw [h]

theorem proxy_obey_stop (s : Scene β) (request : Amp.StopRequest) :
    (s.obey (.stop request)).2.proxy = (s.proxy.stop request).2 := by
  rw [obey]
  split
  next h => rw [h]
  next h => rw [h]

/-- What concerns one client is confined to one session, and to none of any other client's. -/
theorem Fit.confined (h : s.Fit targets) (hc : s.Concerns key order) :
    ∃ m, Proxy.ConfinedTo m s.proxy (s.obey order).2.proxy ∧
      ∀ client n, client ≠ key → (client, n) ∈ s.proxy.registry.bound → n ≠ m := by
  -- The number of the session under the key, if there is one, and otherwise one of no session.
  have hnumber : ∃ m, (∀ n, (key, n) ∈ s.proxy.registry.bound → n = m) ∧
      ∀ client n, client ≠ key → (client, n) ∈ s.proxy.registry.bound → n ≠ m := by
    rcases s.proxy.bound_or_not_mem key with ⟨m, hm⟩ | hnone
    · refine ⟨m, fun n hn => h.orderly.bound_unique hn hm, ?_⟩
      rintro client n hne hn rfl
      exact hne (h.orderly.key_unique hn hm)
    · refine ⟨s.proxy.registry.entries.length, ?_, ?_⟩
      · exact fun n hn => absurd (mem_keys_iff.mpr ⟨n, hn⟩) hnone
      · exact fun client n _ hn => (h.orderly.sound.bound_lt _ hn).ne
  obtain ⟨m, hown, hother⟩ := hnumber
  cases hc with
  | @start request his =>
    rw [proxy_obey_start]
    exact ⟨_, Proxy.confined_start h.orderly h.settled request,
      fun client n _ hn => (h.orderly.sound.bound_lt _ hn).ne⟩
  | stop his =>
    subst his
    rw [proxy_obey_stop]
    exact ⟨m, Proxy.confined_stop h.orderly h.settled hown, hother⟩
  | ends => exact ⟨m, Proxy.confined_finishSession h.orderly h.settled hown, hother⟩
  | fail control reason =>
    refine ⟨m, ?_, hother⟩
    rw [Scene.obey]
    cases hsession : s.proxy.session? key with
    | none => exact .refl m s.proxy
    | some found =>
      obtain rfl := hown found.1 ((Proxy.session?_eq_some_iff h.orderly).mp hsession).1
      exact Proxy.confined_failAt ..
  | media lost =>
    refine ⟨m, ?_, hother⟩
    rw [Scene.obey, Proxy.media]
    cases hsession : s.proxy.session? key with
    | none => exact .refl m s.proxy
    | some found =>
      obtain rfl := hown found.1 ((Proxy.session?_eq_some_iff h.orderly).mp hsession).1
      simp only [Option.map_some, Option.getD_some, Proxy.passOn_of_unreceived (lost _ _ hsession)]
      exact Proxy.confined_arriveAt ..

/-- **Clients do not disturb each other.** -/
theorem Fit.undisturbed (h : s.Fit targets) (hc : s.Concerns key order) (hne : client ≠ key)
    (hsession : s.proxy.session? client = some (n, t)) :
    s.proxy.Undisturbed (s.obey order).2.proxy client n t := by
  obtain ⟨m, hconfined, hother⟩ := h.confined hc
  have hb := ((Proxy.session?_eq_some_iff h.orderly).mp hsession).1
  exact hconfined.undisturbed h.orderly h.settled (h.obey order).orderly hsession
    (hother client n hne hb)

end Scene

end MediaProxy
