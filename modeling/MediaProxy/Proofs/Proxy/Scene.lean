import MediaProxy.Proofs.Proxy.Operations

/-!
# A proxy among others

A proxy on the host that it runs on, with all that can happen to it: requests, the end of backends,
datagrams at its relays, relays that fail, and other programs that bind addresses of the same host
and give them up (`Order`, `Scene.obey`). The host does not say whose its sockets are; the scene
keeps those that belong to others.

Between orders a scene is **fit** (`Scene.Fit`): its registry is orderly and settled, and the
sockets of the host are those of its open relays and of the others. What an order does to a fit
scene is one of a few things (`Scene.Does`, `Scene.Fit.does`), and after each of them the scene is
fit again (`Scene.Does.fit`). What is true of a proxy whatever happens to it follows by cases on
these things (`Scene.run_induction`).
-/

namespace MediaProxy

open Registry

variable {β : Type}

/-- An **order**: one thing that happens to a proxy, be it a call on it or an event outside. -/
inductive Order where
  /-- A client asks for media. -/
  | start (request : Amp.StartRequest)
  /-- A client asks for the end of a session. -/
  | stop (request : Amp.StopRequest)
  /-- The proxy shuts down. -/
  | stopAll
  /-- The backend of a client's session is over. -/
  | ends (client : ClientKey)
  /-- A datagram arrives at a relay of a client's session. -/
  | media (client : ClientKey) (control : Bool) (datagram : Bytes)
  /-- A relay of a client's session fails. -/
  | fail (client : ClientKey) (control : Bool) (reason : Text)
  /-- Another program binds an address. -/
  | occupy (address : SocketAddress)
  /-- Another program gives an address up, if one has it. -/
  | vacate (address : SocketAddress)

/-- Whether an order is about datagrams and sockets only. -/
def Order.isTraffic : Order → Bool
  | .media .. | .fail .. | .occupy _ | .vacate _ => true
  | _ => false

/-- What an order is answered with. -/
inductive Reply where
  /-- A session was started; `ended` is whether its backend was over as soon as it was open. -/
  | started (ended : Bool)
  /-- A session was stopped. -/
  | stopped
  /-- A request failed. -/
  | refused (fault : Fault)
  /-- So many sessions were stopped. -/
  | counted (sessions : Nat)
  /-- There is no answer. -/
  | silence
  deriving DecidableEq, Repr

/-- A **scene**: a proxy, and the addresses of its host that **other programs** have bound. The
proxy is all of the program's state; the others are kept apart because the host does not say whose a
socket is. -/
structure Scene (β : Type) where
  proxy : Proxy β
  others : List SocketAddress

namespace Scene

/-- A proxy without sessions, on a host as it is. -/
def idle [Backend β] (basis : Basis) (host : Host) (backends : β) : Scene β :=
  ⟨.idle basis host backends, host.bound⟩

/-- What comes of an order. -/
def obey [Backend β] (s : Scene β) : Order → Reply × Scene β
  | .start request =>
    match s.proxy.start request with
    | (.ok (), p) =>
      (.started (p.registry.isFinished s.proxy.registry.latches.length), { s with proxy := p })
    | (.error fault, p) => (.refused fault, { s with proxy := p })
  | .stop request =>
    match s.proxy.stop request with
    | (.ok (), p) => (.stopped, { s with proxy := p })
    | (.error fault, p) => (.refused fault, { s with proxy := p })
  | .stopAll => (.counted s.proxy.stopAll.1, { s with proxy := s.proxy.stopAll.2 })
  | .ends client =>
    (.silence, { s with proxy := ((s.proxy.finishSession client).map Prod.snd).getD s.proxy })
  | .media client control datagram =>
    (.silence,
      { s with proxy := ((s.proxy.media client control datagram).map Prod.snd).getD s.proxy })
  | .fail client control reason =>
    (.silence, { s with
      proxy := ((s.proxy.session? client).map fun (n, _) => s.proxy.failAt n control reason).getD
        s.proxy })
  | .occupy address =>
    match s.proxy.seize address with
    | .ok (bound, p) => (.silence, ⟨p, bound :: s.others⟩)
    | .error _ => (.silence, s)
  | .vacate address =>
    if address.unzoned ∈ s.others then
      (.silence, ⟨s.proxy.vacate address, s.others.erase address.unzoned⟩)
    else (.silence, s)

/-- A **fit** scene, on a host where others had outbound sockets to some targets. -/
structure Fit [Backend β] (targets : List SocketAddress) (s : Scene β) : Prop where
  orderly : Orderly s.proxy.registry
  settled : Settled s.proxy.registry
  holds : s.proxy.registry.world.Holds s.others targets

/-- What an order **does** to a fit scene, with its reply. -/
inductive Does [Backend β] (s : Scene β) : Order → Reply → Scene β → Prop where
  | exists_already {request : Amp.StartRequest}
      (has : .of request.host request.port ∈ s.proxy.registry.keys) :
      Does s (.start request)
        (.refused (.sessionExists (ClientKey.of request.host request.port).text)) s
  /-- A start that fails for another reason gives up again all that it had come by. -/
  | start_fails {request : Amp.StartRequest} {fault : Fault} {f : Floor β}
      (hasNone : .of request.host request.port ∉ s.proxy.registry.keys)
      (other : ∀ client, fault ≠ .sessionExists client)
      (sessions : f.sessions = s.proxy.registry.world.sessions)
      (holds : ∀ others targets, s.proxy.registry.world.Holds others targets →
        f.Holds others targets) :
      Does s (.start request) (.refused fault) { s with proxy := s.proxy.withFloor f }
  | started {request : Amp.StartRequest} {f : Floor β} {t : Session} {ended : Bool}
      (hasNone : .of request.host request.port ∉ s.proxy.registry.keys)
      (launched : s.proxy.Launched request f t)
      (enlists : Enlists s.proxy.registry (s.proxy.registryAfter f t ended) t ended)
      (holds : ∀ others targets, s.proxy.registry.world.Holds others targets →
        (s.proxy.registryAfter f t ended).world.Holds others targets) :
      Does s (.start request) (.started ended)
        { s with proxy := ⟨s.proxy.basis, s.proxy.registryAfter f t ended⟩ }
  | stopped {request : Amp.StopRequest} {n : SessionId} {r : Sessions β}
      (bound : (.of request.host request.port, n) ∈ s.proxy.registry.bound)
      (settles : Settles [n] s.proxy.registry r) (finished : r.isFinished n = true) :
      Does s (.stop request) .stopped { s with proxy := { s.proxy with registry := r } }
  | unknown {request : Amp.StopRequest}
      (hasNone : .of request.host request.port ∉ s.proxy.registry.keys) :
      Does s (.stop request)
        (.refused (.sessionUnknown (ClientKey.of request.host request.port).text)) s
  | all_stopped {r : Sessions β}
      (settles : Settles (s.proxy.registry.bound.map Prod.snd) s.proxy.registry r)
      (bound : r.bound = []) :
      Does s .stopAll (.counted s.proxy.registry.bound.length)
        { s with proxy := { s.proxy with registry := r } }
  | ended {client : ClientKey} {n : SessionId} {r : Sessions β}
      (bound : (client, n) ∈ s.proxy.registry.bound)
      (settles : Settles [n] s.proxy.registry r) (finished : r.isFinished n = true) :
      Does s (.ends client) .silence { s with proxy := { s.proxy with registry := r } }
  | nothing {client : ClientKey} (hasNone : client ∉ s.proxy.registry.keys) :
      Does s (.ends client) .silence s
  /-- Traffic changes nothing but the floor, where relays may close by themselves. -/
  | traffic {order : Order} {f : Floor β} {others : List SocketAddress}
      (traffic : order.isTraffic = true)
      (evolves : s.proxy.registry.world.Evolves f)
      (holds : ∀ targets, s.proxy.registry.world.Holds s.others targets → f.Holds others targets) :
      Does s order .silence ⟨s.proxy.withFloor f, others⟩

/-! ## What every order does -/

variable [Backend β] {s : Scene β} {targets : List SocketAddress}

/-- What a request for a start does to a fit scene. -/
theorem Fit.does_start (h : s.Fit targets) (request : Amp.StartRequest) :
    s.Does (.start request) (s.obey (.start request)).1 (s.obey (.start request)).2 := by
  rcases Proxy.start_cases s.proxy h.orderly request with
    ⟨hkey, heq⟩ | ⟨hkey, fault, f, heq, hother, hf, hholds⟩ | ⟨hkey, f, t, ended, hl, heq⟩
  · simp only [obey, heq]
    exact .exists_already hkey
  · simp only [obey, heq]
    exact .start_fails hkey hother hf hholds
  · obtain ⟨henlists, hholds⟩ := hl.enlists h.orderly h.settled (hl.client ▸ hkey) ended
    have hended :
        (s.proxy.registryAfter f t ended).isFinished s.proxy.registry.latches.length = ended := by
      rw [h.orderly.latches]
      exact henlists.finished
    simp only [obey, heq, hended]
    exact .started hkey hl henlists hholds

/-- What a request for a stop does to a fit scene. -/
theorem Fit.does_stop (h : s.Fit targets) (request : Amp.StopRequest) :
    s.Does (.stop request) (s.obey (.stop request)).1 (s.obey (.stop request)).2 := by
  rcases s.proxy.bound_or_not_mem (.of request.host request.port) with ⟨n, hb⟩ | hkey
  · obtain ⟨r, heq, hsettles, hfinished⟩ := Proxy.stop_of_bound h.orderly h.settled hb
    simp only [obey, heq]
    exact .stopped hb hsettles hfinished
  · simp only [obey, Proxy.stop_of_not_mem h.settled hkey]
    exact .unknown hkey

/-- What the end of a backend does to a fit scene. -/
theorem Fit.does_ends (h : s.Fit targets) (client : ClientKey) :
    s.Does (.ends client) (s.obey (.ends client)).1 (s.obey (.ends client)).2 := by
  rcases s.proxy.bound_or_not_mem client with ⟨n, hb⟩ | hkey
  · obtain ⟨news, r, heq, hsettles, hfinished⟩ := Proxy.finishSession_of_bound h.orderly h.settled hb
    simp only [obey, heq]
    exact .ended hb hsettles hfinished
  · have hnone : s.proxy.finishSession client = none := by
      rw [Proxy.finishSession, Proxy.session?_of_not_mem h.orderly hkey]
      rfl
    simp only [obey, hnone]
    exact .nothing hkey

/-- Orders that only stir relays are traffic. -/
theorem does_of_stirs {order : Order} (htraffic : order.isTraffic = true) {p : Proxy β}
    (hs : s.proxy.Stirs p) :
    s.Does order .silence { s with proxy := p } := by
  obtain ⟨f, rfl, hf⟩ := hs
  exact .traffic htraffic hf.evolves fun targets => hf.holds s.others targets

omit [Backend β] in
/-- Datagrams stir no more than relays. -/
theorem stirs_media (client : ClientKey) (control : Bool) (datagram : Bytes) (p : Proxy β) :
    p.Stirs (((p.media client control datagram).map Prod.snd).getD p) := by
  unfold Proxy.media
  cases p.session? client with
  | none => exact .refl p
  | some found => exact (Proxy.stirs_arriveAt ..).trans (Proxy.stirs_passOn ..)

omit [Backend β] in
/-- A relay that fails stirs no more than itself. -/
theorem stirs_fail (client : ClientKey) (control : Bool) (reason : Text) (p : Proxy β) :
    p.Stirs (((p.session? client).map fun (n, _) => p.failAt n control reason).getD p) := by
  cases p.session? client with
  | none => exact .refl p
  | some found => exact Proxy.stirs_failAt ..

/-- Another program's socket is one more of others. -/
theorem does_occupy (address : SocketAddress) :
    s.Does (.occupy address) (s.obey (.occupy address)).1 (s.obey (.occupy address)).2 := by
  rw [obey]
  split
  next bound p hp =>
    obtain ⟨host, hb, rfl⟩ := Proxy.seize_ok hp
    obtain ⟨-, rfl, -, -⟩ := Host.bind_ok hb
    exact .traffic rfl (.of_eq rfl) fun targets hh => ⟨hh.bound.cons _, hh.outbound, hh.unzoned⟩
  next => exact does_of_stirs rfl (.refl _)

/-- A socket that another program gives up is one of others less. -/
theorem does_vacate (address : SocketAddress) :
    s.Does (.vacate address) (s.obey (.vacate address)).1 (s.obey (.vacate address)).2 := by
  rw [obey]
  split
  next ha =>
    refine .traffic rfl (.of_eq rfl) fun targets hh => ⟨?_, hh.outbound, hh.unzoned⟩
    have herase := hh.bound.erase address.unzoned
    rwa [List.erase_append_left _ ha] at herase
  next => exact does_of_stirs rfl (.refl _)

/-- **What an order comes to** in a fit scene is one of the things that an order does. -/
theorem Fit.does (h : s.Fit targets) (order : Order) :
    s.Does order (s.obey order).1 (s.obey order).2 := by
  cases order with
  | start request => exact h.does_start request
  | stop request => exact h.does_stop request
  | stopAll =>
    obtain ⟨r, heq, hsettles, hbound⟩ := Proxy.stopAll_eq h.orderly h.settled
    simp only [obey, heq]
    exact .all_stopped hsettles hbound
  | ends client => exact h.does_ends client
  | media client control datagram => exact does_of_stirs rfl (stirs_media ..)
  | fail client control reason => exact does_of_stirs rfl (stirs_fail ..)
  | occupy address => exact does_occupy address
  | vacate address => exact does_vacate address

/-! ## Every order keeps a scene fit -/

/-- A proxy without sessions is fit. -/
theorem fit_idle (basis : Basis) (host : Host) (backends : β) :
    (idle basis host backends).Fit host.outbound := by
  refine ⟨⟨⟨?_, ?_, ?_⟩, rfl, rfl, ?_, ?_, List.nodup_nil⟩, ?_, ⟨?_, ?_, ?_⟩⟩ <;>
    simp [idle, Proxy.idle, Registry.empty, Filed, Settled, Floor.relays, Relay.openOnes]

/-- A scene stays fit when some of its sessions end. -/
theorem Fit.settles {ns : List SessionId} {r : Sessions β} (h : s.Fit targets)
    (hs : Settles ns s.proxy.registry r) :
    Fit targets { s with proxy := { s.proxy with registry := r } } :=
  ⟨hs.orderly, hs.settled, hs.holds _ _ h.holds⟩

/-- A scene stays fit when its relays go on and its sockets are accounted for. -/
theorem Fit.refloor {f : Floor β} {others : List SocketAddress} (h : s.Fit targets)
    (hf : s.proxy.registry.world.Evolves f) (hh : f.Holds others targets) :
    Fit targets ⟨s.proxy.withFloor f, others⟩ :=
  ⟨h.orderly.refloor hf.length hf.sessions, h.settled.refloor f, hh⟩

/-- **Whatever is done** to a scene, it stays fit. -/
theorem Does.fit {order : Order} {reply : Reply} {s' : Scene β} (hd : s.Does order reply s')
    (h : s.Fit targets) :
    s'.Fit targets := by
  cases hd with
  | exists_already | unknown | nothing => exact h
  | start_fails _ _ hsessions hholds => exact h.refloor (.of_eq hsessions) (hholds _ _ h.holds)
  | started _ _ henlists hholds => exact ⟨henlists.orderly, henlists.settled, hholds _ _ h.holds⟩
  | stopped _ hsettles | all_stopped hsettles | ended _ hsettles => exact h.settles hsettles
  | traffic _ hevolves hholds => exact h.refloor hevolves (hholds _ h.holds)

/-- A scene stays fit, whatever is ordered. -/
theorem Fit.obey (h : s.Fit targets) (order : Order) :
    (s.obey order).2.Fit targets := (h.does order).fit h

/-- What comes of some orders, one after another. -/
def run (s : Scene β) (orders : List Order) : Scene β :=
  orders.foldl (fun s order => (s.obey order).2) s

/-- What holds at first, and after all that is done to a fit scene in which it holds, holds after
every run. -/
theorem run_induction {P : Scene β → Prop} (h : s.Fit targets) (hP : P s)
    (step : ∀ s order reply s', Fit targets s → P s → s.Does order reply s' → P s')
    (orders : List Order) :
    P (s.run orders) := by
  induction orders generalizing s with
  | nil => exact hP
  | cons order rest ih => exact ih (h.obey order) (step s order _ _ h hP (h.does order))

/-- A scene stays fit, however much is ordered. -/
theorem Fit.run (h : s.Fit targets) (orders : List Order) : (s.run orders).Fit targets :=
  run_induction h h (fun _ _ _ _ hfit _ hd => hd.fit hfit) orders

end Scene

end MediaProxy
