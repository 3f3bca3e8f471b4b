import MediaProxy.Proofs.Proxy.Scene

/-!
# Ports of different sessions

All relays of a proxy receive on the address of its relay host, so two relays that are open have
different ports. A relay that closes by itself gives its port up while its session stays registered,
and the next start may be given that port. This is the only way in which two sessions come to the
same port: of all sessions that ever were, a later one has a port of an earlier one only if that
relay of the earlier one is closed (`Floor.Apart`), and a closed relay of a registered session has
closed itself with an error. So the clients of a proxy are isolated from each other exactly as long
as no port has been handed on (`isolated_iff`), and it does happen that one is (`not_isolated`).
-/

namespace MediaProxy

open Registry

variable {β : Type}

/-- The sessions of a floor stand **apart**: all their relays are at home at one host, and where a
later session has a port of an earlier one, that relay of the earlier one is closed. -/
structure Floor.Apart (host : Text) (f : Floor β) : Prop where
  homed : ∀ (n : SessionId) (s : Session), f.sessions[n]? = some s → ∀ control,
    (s.relays.side control).HasHome host
  apart : ∀ (n m : SessionId) (s t : Session), n < m → f.sessions[n]? = some s →
    f.sessions[m]? = some t →
    ∀ control control', (s.relays.side control).inbound.port = (t.relays.side control').inbound.port →
      (s.relays.side control).closed = true

/-- A floor that **continues** another: the same sessions, later. -/
structure Floor.Continues (f f' : Floor β) : Prop where
  length : f'.sessions.length = f.sessions.length
  sessions : ∀ (n : SessionId) (s : Session), f.sessions[n]? = some s →
    ∃ s', f'.sessions[n]? = some s' ∧ s.Follows s'

namespace Floor

variable {f f' : Floor β} {host : Text} {n : SessionId} {s' : Session}

/-- Sessions that go on as they are continue. -/
theorem Evolves.continues (h : f.Evolves f') : f.Continues f' :=
  ⟨h.length, fun n s hs => let ⟨s', hs', hfollows, _⟩ := h.sessions n s hs; ⟨s', hs', hfollows⟩⟩

/-- A session that is there after others continue was there before. -/
theorem Continues.was (h : f.Continues f') (hs : f'.sessions[n]? = some s') :
    ∃ s, f.sessions[n]? = some s ∧ s.Follows s' := by
  have hlt : n < f.sessions.length := h.length ▸ (List.getElem?_eq_some_iff.mp hs).1
  obtain ⟨t, ht, hfollows⟩ := h.sessions n _ (List.getElem?_eq_getElem hlt)
  obtain rfl := Option.some.inj (ht.symm.trans hs)
  exact ⟨_, List.getElem?_eq_getElem hlt, hfollows⟩

/-- Sessions that are apart stay apart, since they keep their ports and their closed relays. -/
theorem Apart.continues (h : f.Apart host) (hc : f.Continues f') : f'.Apart host := by
  constructor
  · intro n s' hs' control
    obtain ⟨s, hs, hfollows⟩ := hc.was hs'
    exact (h.homed n s hs control).of_inbound (hfollows.inbound control)
  · intro n m s' t' hlt hs' ht' control control' hport
    obtain ⟨s, hs, hfollows⟩ := hc.was hs'
    obtain ⟨t, ht, hfollows'⟩ := hc.was ht'
    rw [hfollows.inbound, hfollows'.inbound] at hport
    exact hfollows.closed control (h.apart n m s t hlt hs ht control control' hport)

end Floor

/-- Two relays at one host that have the same port collide. -/
theorem Relay.HasHome.collides {host : Text} {r r' : Relay} (h : r.HasHome host)
    (h' : r'.HasHome host) (hport : r.inbound.port = r'.inbound.port) :
    r.inbound.collides r'.inbound = true := by
  obtain ⟨zone, hl⟩ := h
  obtain ⟨zone', hl'⟩ := h'
  have hip : r.inbound.ip = r'.inbound.ip := congrArg Prod.fst (Except.ok.inj (hl.symm.trans hl'))
  simp [SocketAddress.collides, IpAddress.covers, hport, hip]

section Launched

variable [Backend β] {p : Proxy β} {request : Amp.StartRequest} {f : Floor β} {s : Session}
  {others targets : List SocketAddress}

omit [Backend β] in
/-- A session that has just been launched has no port of an earlier one but where that one's relay
is closed. -/
theorem Proxy.Launched.closed_of_port (h : p.Launched request f s)
    (ha : p.registry.world.Apart p.basis.relayHost)
    (hh : p.registry.world.Holds others targets) {n : SessionId} {t : Session}
    (ht : p.registry.world.sessions[n]? = some t) {control control' : Bool}
    (hport : (t.relays.side control).inbound.port = (s.relays.side control').inbound.port) :
    (t.relays.side control).closed = true := by
  by_contra hopen
  rw [Bool.not_eq_true] at hopen
  have hmem : t.relays.side control ∈ p.registry.world.relays := by
    refine List.mem_flatMap.mpr ⟨t, List.mem_of_getElem? ht, ?_⟩
    cases control <;> simp [Relay.Pair.side]
  have hfree := Relay.Holds.not_collides hh (h.free control') hmem hopen
  rw [(h.homed control').collides (ha.homed n t ht control) hport.symm] at hfree
  cases hfree

/-- Sessions that are apart are apart from one that is enlisted after it was launched. -/
theorem Proxy.Launched.apart (h : p.Launched request f s)
    (ha : p.registry.world.Apart p.basis.relayHost)
    (hh : p.registry.world.Holds others targets)
    (hn : p.registry.world.sessions.length = p.registry.entries.length)
    {r : Sessions β} {ended : Bool} (he : Enlists p.registry r s ended) :
    r.world.Apart p.basis.relayHost := by
  obtain ⟨s', hs', hfollows⟩ := he.session
  have hwas : ∀ {m : SessionId} {t : Session}, r.world.sessions[m]? = some t →
      (m < p.registry.entries.length ∧ p.registry.world.sessions[m]? = some t) ∨
      (m = p.registry.entries.length ∧ t = s') := by
    intro m t ht
    have hlt : m < p.registry.entries.length + 1 :=
      hn ▸ he.length ▸ (List.getElem?_eq_some_iff.mp ht).1
    by_cases hm : m = p.registry.entries.length
    · subst hm
      exact .inr ⟨rfl, Option.some.inj (ht.symm.trans hs')⟩
    · exact .inl ⟨Nat.lt_of_le_of_ne (Nat.lt_succ_iff.mp hlt) hm,
        (he.aside.sessions m (by simpa using hm)).symm.trans ht⟩
  constructor
  · intro m t ht control
    rcases hwas ht with ⟨-, ht⟩ | ⟨-, rfl⟩
    · exact ha.homed m t ht control
    · exact (h.homed control).of_inbound (hfollows.inbound control)
  · intro m k t u hlt ht hu control control' hport
    rcases hwas ht with ⟨hm, ht⟩ | ⟨rfl, rfl⟩
    · rcases hwas hu with ⟨-, hu⟩ | ⟨-, rfl⟩
      · exact ha.apart m k t u hlt ht hu control control' hport
      · exact h.closed_of_port ha hh ht
          (hport.trans (congrArg SocketAddress.port (hfollows.inbound control')))
    · -- Nothing comes after the new session.
      rcases hwas hu with ⟨hk, -⟩ | ⟨rfl, -⟩
      · exact absurd hlt (Nat.lt_asymm hk)
      · exact absurd hlt (Nat.lt_irrefl _)

end Launched

/-! ## Every order keeps sessions apart -/

namespace Scene

variable [Backend β] {s s' : Scene β} {targets : List SocketAddress}

/-- A scene in which sessions stand **apart**. -/
def Apart (s : Scene β) : Prop := s.proxy.registry.world.Apart s.proxy.basis.relayHost

/-- Sessions stay apart when some of them end. -/
theorem Apart.settles {ns : List SessionId} {r : Sessions β} (ha : s.Apart)
    (hs : Settles ns s.proxy.registry r) : Apart { s with proxy := { s.proxy with registry := r } } :=
  Floor.Apart.continues ha ⟨hs.onward.length, hs.onward.sessions⟩

/-- **Whatever is done** to a scene, its sessions stay apart. -/
theorem Does.apart {order : Order} {reply : Reply} (hd : s.Does order reply s') (h : s.Fit targets)
    (ha : s.Apart) : s'.Apart := by
  cases hd with
  | exists_already | unknown | nothing => exact ha
  | start_fails _ _ hsessions =>
    exact Floor.Apart.continues ha (Floor.Evolves.of_eq hsessions).continues
  | started _ hlaunched henlists => exact hlaunched.apart ha h.holds h.orderly.sessions henlists
  | stopped _ hsettles | all_stopped hsettles | ended _ hsettles => exact ha.settles hsettles
  | traffic _ hevolves => exact Floor.Apart.continues ha hevolves.continues

/-- No two of no sessions share a port. -/
theorem apart_idle (basis : Basis) (host : Host) (backends : β) :
    (idle basis host backends).Apart := by
  refine ⟨fun n s hs => ?_, fun n m s t _ hs => ?_⟩ <;> simp [idle, Proxy.idle, Registry.empty] at hs

/-- Sessions are apart, whatever has happened. -/
theorem apart_run (basis : Basis) (host : Host) (backends : β) (orders : List Order) :
    ((idle basis host backends).run orders).Apart :=
  run_induction (fit_idle basis host backends) (apart_idle basis host backends)
    (fun _ _ _ _ h ha hd => hd.apart h ha) orders

end Scene

/-! ## Isolation -/

section Isolation

variable [Backend β]

/-- The clients of a proxy are **isolated** from each other: no two have relays on the same port. -/
def Proxy.Isolated (p : Proxy β) : Prop :=
  ∀ client client' n m s t, client ≠ client' → p.session? client = some (n, s) →
    p.session? client' = some (m, t) →
    ∀ control control', (s.relays.side control).inbound.port ≠ (t.relays.side control').inbound.port

/-- A port has been **handed on** from one client to another: a relay of the one has closed itself
with an error, while its session stays, and a later session of the other has a relay on the same
port. -/
def Proxy.HandedOn (p : Proxy β) (client client' : ClientKey) : Prop :=
  ∃ n m s t control control', n < m ∧ p.session? client = some (n, s) ∧
    p.session? client' = some (m, t) ∧
    (s.relays.side control).closed = true ∧ (s.relays.side control).error.isSome = true ∧
    (s.relays.side control).inbound.port = (t.relays.side control').inbound.port

/-- Of two clients on the same port, the earlier one's port has been handed on. -/
theorem Scene.Apart.handedOn {s : Scene β} {targets : List SocketAddress} (ha : s.Apart)
    (h : s.Fit targets) {client client' : ClientKey} {n m : SessionId} {t u : Session} (hlt : n < m)
    (ht : s.proxy.session? client = some (n, t)) (hu : s.proxy.session? client' = some (m, u))
    {control control' : Bool}
    (hport : (t.relays.side control).inbound.port = (u.relays.side control').inbound.port) :
    s.proxy.HandedOn client client' := by
  obtain ⟨-, ht'⟩ := (Proxy.session?_eq_some_iff h.orderly).mp ht
  obtain ⟨-, hu'⟩ := (Proxy.session?_eq_some_iff h.orderly).mp hu
  obtain ⟨entry, -, hfired, -, hm⟩ := Proxy.matches_of_session? h.orderly ht
  have hclosed := Floor.Apart.apart ha n m t u hlt ht' hu' control control' hport
  exact ⟨n, m, t, u, control, control', hlt, ht, hu, hclosed, hm.fails hfired control hclosed, hport⟩

/-- **Clients are isolated exactly as long as no port is handed on.** After every finite sequence of
orders, on any host and in front of any media server, two clients have relays on the same port only
where a relay of one of them has closed itself and its port has been given to the other. -/
theorem isolated_iff (basis : Basis) (host : Host) (backends : β) (orders : List Order) :
    ((Scene.idle basis host backends).run orders).proxy.Isolated ↔
      ∀ client client',
        ¬ ((Scene.idle basis host backends).run orders).proxy.HandedOn client client' := by
  have h := (Scene.fit_idle basis host backends).run orders
  have ha := Scene.apart_run basis host backends orders
  generalize (Scene.idle basis host backends).run orders = s at h ha
  constructor
  · rintro hisolated client client' ⟨n, m, t, u, control, control', hlt, ht, hu, -, -, hport⟩
    refine hisolated client client' n m t u ?_ ht hu control control' hport
    rintro rfl
    obtain ⟨rfl, -⟩ : n = m ∧ t = u := by simpa [ht] using hu
    exact Nat.lt_irrefl n hlt
  · intro hnone client client' n m t u hne ht hu control control' hport
    rcases Nat.lt_trichotomy n m with hlt | rfl | hlt
    · exact hnone client client' (ha.handedOn h hlt ht hu hport)
    · -- Sessions of different clients have different numbers.
      obtain ⟨entry, he, -, hclient, hm⟩ := Proxy.matches_of_session? h.orderly ht
      obtain ⟨entry', he', -, hclient', hm'⟩ := Proxy.matches_of_session? h.orderly hu
      obtain rfl := Option.some.inj (he.symm.trans he')
      exact hne (hclient.symm.trans (hm.client.trans (hm'.client.symm.trans hclient')))
    · exact hnone client' client (ha.handedOn h hlt hu ht hport.symm)

end Isolation

/-- The loopback address. -/
def loopback : Text := "127.0.0.1".toList

/-- The settings of a proxy on the loopback address. -/
def loopbackBasis : Basis :=
  ⟨⟨"rtsp".toList, some ⟨[], none, "media.local".toList, some 8554⟩, .segments [[]], none, none⟩,
    loopback, 21000, 21100, none⟩

/-- A client has a session and does not listen; two datagrams to each of its relays close them both,
and then another client asks for media. -/
def deafClient : List Order :=
  let client := ClientKey.of loopback 6000
  [.start ⟨loopback, 6000, "a.ts".toList⟩, .media client false [1], .media client false [2],
    .media client true [3], .media client true [4], .start ⟨loopback, 6100, "b.ts".toList⟩]

/-- The proxy after that: the relays of the deaf client are closed, and its session is still there.
-/
def deafServed : Scene Fates := (Scene.idle loopbackBasis .idle ⟨[]⟩).run deafClient

/-- The port of a client's first relay. -/
def Proxy.mediaPort? [Backend β] (p : Proxy β) (client : ClientKey) : Option UInt16 :=
  (p.session? client).map fun (_, s) => (s.relays.side false).inbound.port

/-- The second client is given the ports of the first, which still has its session. -/
theorem not_isolated :
    ¬ ((Scene.idle loopbackBasis .idle (⟨[]⟩ : Fates)).run deafClient).proxy.Isolated := by
  intro hisolated
  have hfirst : ((Scene.idle loopbackBasis .idle (⟨[]⟩ : Fates)).run deafClient).proxy.mediaPort?
      (.of loopback 6000) = some 21000 := by decide +kernel
  have hsecond : ((Scene.idle loopbackBasis .idle (⟨[]⟩ : Fates)).run deafClient).proxy.mediaPort?
      (.of loopback 6100) = some 21000 := by decide +kernel
  obtain ⟨⟨n, s⟩, hs, hport⟩ := Option.map_eq_some_iff.mp hfirst
  obtain ⟨⟨m, t⟩, ht, hport'⟩ := Option.map_eq_some_iff.mp hsecond
  exact hisolated _ _ n m s t (by decide +kernel) hs ht false false (hport.trans hport'.symm)

end MediaProxy
