import MediaProxy.Proofs.Proxy.Scene
import MediaProxy.Proofs.Registry.Translating

/-!
# The journal is only written

A proxy writes down what happens to its sessions and never reads it. So it makes no difference to
anything but the journal itself if something more had been written there before (`Proxy.after`):
every order is answered in the same way, and what it leaves behind is the same with those events in
front (`Scene.obey_after`).
-/

namespace MediaProxy

open Registry

variable {β : Type} {events : List Event}

/-- The floor on which some more has happened **before**. -/
def Floor.after (events : List Event) (f : Floor β) : Floor β :=
  { f with journal := events ++ f.journal }

/-- The proxy for which some more has happened before. -/
def Proxy.after (events : List Event) (p : Proxy β) : Proxy β :=
  { p with registry := p.registry.mapWorld (Floor.after events) }

/-- The scene in which some more has happened before. -/
def Scene.after (events : List Event) (s : Scene β) : Scene β :=
  { s with proxy := s.proxy.after events }

/-- The proxy without what is **written** in its journal. -/
def Proxy.unwritten (p : Proxy β) : Proxy β :=
  p.withFloor { p.registry.world with journal := [] }

/-! ## Sessions -/

namespace Floor

variable (f : Floor β)

theorem note_after (e : Event) : (f.after events).note e = (f.note e).after events := by
  simp [note, after]

theorem halt_after [Backend β] (w : WorkerId) (done : Bool) :
    (f.after events).halt w done = (f.halt w done).after events := by
  simp [halt, note, after]

theorem launch_after (relays : Relay.Pair) (site : Site) :
    (f.after events).launch relays site =
      ((f.launch relays site).1, (f.launch relays site).2.after events) := by
  simp [launch, note, after]

theorem giveUp_after (relays : Relay.Pair) :
    (f.after events).giveUp relays = (f.giveUp relays).after events := by
  simp [giveUp, note, after]

end Floor

theorem Session.silence_after (n : SessionId) (s : Session) (finished : Bool) (f : Floor β) :
    s.silence n finished (f.after events) = (s.silence n finished f).after events := by
  simp [silence, Floor.after, Floor.note, Floor.setSession]

theorem Session.announce_after (n : SessionId) (r : Sessions β) :
    announce n (r.mapWorld (Floor.after events)) = (announce n r).after events := by
  have hlookup : (r.mapWorld (Floor.after events)).lookup = r.lookup := rfl
  have hsessions : (r.world.after events).sessions = r.world.sessions := rfl
  simp only [announce, world_mapWorld, hlookup, hsessions]
  split <;> simp only [Floor.note_after]

theorem Session.leave_after (n : SessionId) (client : ClientKey) (r : Sessions β) :
    leave n client (r.mapWorld (Floor.after events)) =
      (leave n client r).mapWorld (Floor.after events) := by
  have hforget := forget_mapWorld (Floor.after events) r client n
  simp only [leave, hforget, world_mapWorld, Floor.note_after]
  split <;> rfl

/-- What sessions undertake does not depend on what has been written before. -/
theorem Session.translates_after [Backend β] (events : List Event) :
    (contract : Contract ClientKey (Floor β)).Translates (Floor.after events) contract where
  name _ := rfl
  workers _ _ := rfl
  start := announce_after
  halt _ _ _ := Prod.ext rfl (Floor.halt_after ..)
  cleanup n r := by
    cases hs : r.world.sessions[n]? with
    | none =>
      have hs' : (r.mapWorld (Floor.after events)).world.sessions[n]? = none := hs
      simp only [contract, cleanup, hs, hs']
    | some s =>
      have hs' : (r.mapWorld (Floor.after events)).world.sessions[n]? = some s := hs
      have hfloor : floorAfter n s (r.mapWorld (Floor.after events)) =
          (floorAfter n s r).after events := by
        have hlookup : (r.mapWorld (Floor.after events)).lookup = r.lookup := rfl
        simp only [floorAfter, isFinished_mapWorld, world_mapWorld, Floor.halt_after, silence_after,
          Floor.note_after, hlookup]
      simp only [contract, cleanup_eq hs, cleanup_eq hs', hfloor]
      exact congrArg (Prod.mk (Body.returns none))
        (leave_after n s.client { r with world := floorAfter n s r })

/-! ## Requests -/

namespace Proxy

variable (p : Proxy β)

theorem withFloor_after (f : Floor β) :
    (p.after events).withFloor (f.after events) = (p.withFloor f).after events := rfl

section Requests

variable [Backend β]

/-- An enrolment is a registration in the registry with one session more. -/
theorem enroll_def (s : Session) (finished : Bool) : p.enroll s finished =
    match (p.registry.withSession (if finished then .finished else .fresh)
      { s with backend := p.registry.latches.length }).register Session.contract s.client
        p.registry.world.sessions.length with
    | .ok registry => (.ok (), { p with registry := Registry.settle Session.contract registry })
    | .error fault => (.error fault, p.withFloor
        (Session.silence p.registry.world.sessions.length
          { s with backend := p.registry.latches.length } finished
          ((p.registry.withSession (if finished then .finished else .fresh)
            { s with backend := p.registry.latches.length }).world.halt p.registry.latches.length
              finished))) := rfl

theorem enroll_after (s : Session) (finished : Bool) : (p.after events).enroll s finished =
    ((p.enroll s finished).1, (p.enroll s finished).2.after events) := by
  have hregister := register_mapWorld (Session.translates_after events)
    (r := p.registry.withSession (if finished then .finished else .fresh)
      { s with backend := p.registry.latches.length }) s.client p.registry.world.sessions.length
  rw [enroll_def, enroll_def]
  generalize hr : p.registry.withSession (if finished then .finished else .fresh)
    { s with backend := p.registry.latches.length } = r at hregister ⊢
  have hr' : (p.after events).registry.withSession (if finished then .finished else .fresh)
      { s with backend := p.registry.latches.length } = r.mapWorld (Floor.after events) := hr ▸ rfl
  have hlatches : (p.after events).registry.latches = p.registry.latches := rfl
  have hsessions : (p.after events).registry.world.sessions = p.registry.world.sessions := rfl
  rw [hlatches, hsessions, hr', hregister]
  cases r.register Session.contract s.client p.registry.world.sessions.length with
  | error fault =>
    simp only [Except.map, world_mapWorld, Floor.halt_after, Session.silence_after, withFloor_after]
  | ok registry =>
    simp only [Except.map, settle_mapWorld (Session.translates_after events)]
    rfl

theorem engage_after (r : Amp.StartRequest) (url : Url) (relays : Relay.Pair) :
    (p.after events).engage r url relays =
      ((p.engage r url relays).1, (p.engage r url relays).2.after events) := by
  have hbasis : (p.after events).basis = p.basis := rfl
  have hworld : (p.after events).registry.world = p.registry.world.after events := rfl
  have hbackends : ∀ f : Floor β, (f.after events).backends = f.backends := fun _ => rfl
  unfold engage
  simp only [hbasis, hworld, Floor.note_after, hbackends]
  generalize p.registry.world.note (.connecting relays.rtp.inbound.port url.render
    (p.basis.logPath relays.rtp.inbound.port r.media)) = floor
  obtain ⟨cause | finished, backends⟩ := Backend.connect url relays.rtp.inbound.port
    (p.basis.logPath relays.rtp.inbound.port r.media) floor.backends
  · exact Prod.ext rfl (congrArg p.withFloor (Floor.giveUp_after { floor with backends := backends } relays))
  · exact enroll_after (p.withFloor { floor with backends := backends }) _ finished

theorem start_after (r : Amp.StartRequest) :
    (p.after events).start r = ((p.start r).1, (p.start r).2.after events) := by
  have hlookup : (p.after events).registry.lookup = p.registry.lookup := rfl
  have hbasis : (p.after events).basis = p.basis := rfl
  have hsite : (p.after events).registry.world.site = p.registry.world.site := rfl
  have hworld : (p.after events).registry.world = p.registry.world.after events := rfl
  unfold start
  simp only [hlookup, hbasis, hsite]
  split
  · rfl
  split
  · rfl
  split
  · rfl
  · simp only [hworld, Floor.launch_after, withFloor_after, engage_after]

theorem stop_after (r : Amp.StopRequest) :
    (p.after events).stop r = ((p.stop r).1, (p.stop r).2.after events) := by
  have hstop := stopOne_mapWorld (Session.translates_after events) (r := p.registry)
    (ClientKey.of r.host r.port)
  unfold stop
  simp only [after, hstop]
  cases stopOne Session.contract (ClientKey.of r.host r.port) p.registry with
  | none => rfl
  | some result =>
    simp only [Option.map_some, settle_mapWorld (Session.translates_after events)]

theorem stopAll_after : (p.after events).stopAll = (p.stopAll.1, p.stopAll.2.after events) := by
  have hstop := Registry.stopAll_mapWorld (Session.translates_after events) (r := p.registry)
  unfold stopAll
  simp only [after, hstop]
  cases Registry.stopAll Session.contract p.registry with
  | none => rfl
  | some result =>
    obtain ⟨message | n, r⟩ := result
    · rfl
    · simp only [Option.map_some, settle_mapWorld (Session.translates_after events)]

theorem finishSession_after (client : ClientKey) : (p.after events).finishSession client =
    (p.finishSession client).map fun (news, p) => (news, p.after events) := by
  have hsession : (p.after events).session? client = p.session? client := rfl
  unfold finishSession
  rw [hsession]
  cases p.session? client with
  | none => rfl
  | some found =>
    simp only [Option.map_some, finishBackend, after, finish_mapWorld,
      settle_mapWorld (Session.translates_after events)]

end Requests

/-! ## Media -/

theorem arriveAt_after (n : SessionId) (control : Bool) (datagram : Bytes) :
    (p.after events).arriveAt n control datagram =
      ((p.arriveAt n control datagram).1, (p.arriveAt n control datagram).2.after events) := by
  have hsessions : (p.after events).registry.world.sessions = p.registry.world.sessions := rfl
  unfold arriveAt
  rw [hsessions]
  cases p.registry.world.sessions[n]? <;> rfl

theorem passOn_after (relays : Nat) (target : SocketAddress) (sent : List Delivery) :
    (p.after events).passOn relays target sent = (p.passOn relays target sent).after events := by
  induction relays generalizing p target sent with
  | zero => rfl
  | succ relays ih =>
    refine List.foldl_hom (Proxy.after events) fun p delivery => ?_
    have hrelay : (p.after events).relayAt? target = p.relayAt? target := rfl
    simp only [hrelay]
    cases p.relayAt? target with
    | none => rfl
    | some found => simp only [arriveAt_after, ih]

theorem media_after (client : ClientKey) (control : Bool) (datagram : Bytes) :
    (p.after events).media client control datagram =
      (p.media client control datagram).map fun (sent, p) => (sent, p.after events) := by
  have hsession : (p.after events).session? client = p.session? client := rfl
  unfold media
  rw [hsession]
  cases p.session? client with
  | none => rfl
  | some found =>
    simp only [Option.map_some, arriveAt_after, passOn_after]
    rfl

theorem failAt_after (n : SessionId) (control : Bool) (reason : Text) :
    (p.after events).failAt n control reason = (p.failAt n control reason).after events := by
  have hsessions : (p.after events).registry.world.sessions = p.registry.world.sessions := rfl
  unfold failAt
  rw [hsessions]
  cases p.registry.world.sessions[n]? <;> rfl

theorem seize_after (address : SocketAddress) : (p.after events).seize address =
    (p.seize address).map fun (bound, p) => (bound, p.after events) := by
  have hhost : (p.after events).registry.world.site.host = p.registry.world.site.host := rfl
  unfold seize
  simp only [hhost]
  cases p.registry.world.site.host.bind address <;> rfl

end Proxy

/-! ## Orders -/

namespace Scene

variable [Backend β] (s : Scene β)

/-- **Nothing depends on the journal.** -/
theorem obey_after (order : Order) :
    (s.after events).obey order = ((s.obey order).1, (s.obey order).2.after events) := by
  cases order with
  | start request =>
    simp only [obey, after, Proxy.start_after]
    obtain ⟨_ | _, p⟩ := s.proxy.start request <;> rfl
  | stop request =>
    simp only [obey, after, Proxy.stop_after]
    obtain ⟨_ | _, p⟩ := s.proxy.stop request <;> rfl
  | stopAll => simp only [obey, after, Proxy.stopAll_after]
  | ends client =>
    simp only [obey, after, Proxy.finishSession_after]
    cases s.proxy.finishSession client <;> rfl
  | media client control datagram =>
    simp only [obey, after, Proxy.media_after]
    cases s.proxy.media client control datagram <;> rfl
  | fail client control reason =>
    have hsession : (s.proxy.after events).session? client = s.proxy.session? client := rfl
    simp only [obey, after, hsession, Proxy.failAt_after]
    cases s.proxy.session? client <;> rfl
  | occupy address =>
    simp only [obey, after, Proxy.seize_after]
    cases s.proxy.seize address <;> rfl
  | vacate address =>
    have hothers : (s.after events).others = s.others := rfl
    rw [obey, obey, hothers]
    split <;> rfl

/-- Whatever is ordered comes to the same, whatever has been written before. -/
theorem run_after (orders : List Order) : (s.after events).run orders = (s.run orders).after events :=
  List.foldl_hom (Scene.after events) fun s order => congrArg Prod.snd (s.obey_after order)

/-- Proxies that differ in what is written only answer the same orders alike, and go on differing in
that only. -/
theorem obey_eq_of_unwritten {p p' : Proxy β} (h : p'.unwritten = p.unwritten)
    (others : List SocketAddress) (orders : List Order) (order : Order) :
    ((run ⟨p', others⟩ orders).obey order).1 = ((run ⟨p, others⟩ orders).obey order).1 ∧
      (run ⟨p', others⟩ orders).proxy.unwritten = (run ⟨p, others⟩ orders).proxy.unwritten := by
  have hafter : ∀ p : Proxy β, Scene.mk p others =
      (Scene.mk p.unwritten others).after p.registry.world.journal := by
    intro p
    simp [after, Proxy.after, Proxy.unwritten, Proxy.withFloor, mapWorld, Floor.after]
  rw [hafter p, hafter p', h]
  simp only [run_after, obey_after, true_and]
  rfl

end Scene

end MediaProxy
