import MediaProxy.Proofs.Proxy.Journal
import MediaProxy.Proofs.Proxy.Ports

/-!
# Starts that fail

A start that fails has come by nothing, by one relay, or by both; and wherever it fails, it gives
all of that back. What it leaves behind is the proxy that there was before, but for one thing
(`Proxy.of_start_error`): if the media server has been asked for a backend, it has been asked, and
the journal says so. It is asked only when both relays have been allocated and started, and then
once.

So to registry, sessions and sockets a failed start is no start at all, and whatever is asked of the
proxy afterwards comes to the same as without it (`start_leaves_no_trace`).
-/

namespace MediaProxy

open Registry

/-! ## Relays that are given back -/

namespace Relay

variable {r : Relay} {s s₁ s₂ : Site} {first second : Text}

/-- Nothing is waiting in a relay that has just been made. -/
theorem start_made (hm : r = .made r.inbound r.target) (s : Site) :
    r.start s = ([], { r with started := true }, s) := by
  rw [hm]
  rfl

/-- Nobody has registered with a relay that has just been made. -/
theorem close_made (hm : r = .made r.inbound r.target) (s : Site) :
    ({ r with started := true }.close s).2 =
      ⟨(s.host.release r.inbound).disconnect r.target, s.observers⟩ := by
  rw [hm]
  rfl

/-- The second of two is erased from behind the first, whether they are the same or not. -/
theorem erase_second {α : Type} [DecidableEq α] (a b : α) (l : List α) :
    (b :: a :: l).erase a = b :: l := by
  by_cases h : b = a
  · simp [h]
  · simp [h]

/-- Closing two relays that have just been made and started gives everything back. -/
theorem Pair.close_start {pair : Pair} (hrtp : Opened first pair.rtp s s₁)
    (hrtcp : Opened second pair.rtcp s₁ s₂) : ((pair.start s₂).1.close (pair.start s₂).2).2 = s := by
  rw [Pair.start_eq, start_made hrtp.made, start_made hrtcp.made, Pair.close_eq]
  simp only [close_made hrtp.made, close_made hrtcp.made, hrtcp.site, hrtp.site, withSockets,
    Host.release, Host.disconnect, hrtp.unzoned, hrtcp.unzoned, erase_second]
  simp

end Relay

/-! ## How a start fails -/

variable {β : Type} [Backend β] {p p' : Proxy β} {request : Amp.StartRequest} {fault : Fault}

/-- How a start **fails**, and the proxy that it leaves. -/
inductive Proxy.StartFails (p : Proxy β) (request : Amp.StartRequest) : Fault → Proxy β → Prop where
  /-- It has asked nothing of the media server. -/
  | unasked {fault : Fault} : StartFails p request fault p
  /-- Both relays had been allocated, and the media server had no backend for them. -/
  | turned_down {second : Text} {url : Url} {relays : Relay.Pair} {site : Site} {cause : Fault}
      {backends : β} (prepared : Proxy.prepare p.basis request = .ok (second, url))
      (allocated : Relay.search p.basis.relayHost (ClientKey.of request.host request.port).text second
        p.basis.lowest p.basis.highest p.registry.world.site = (.ok relays, site))
      (refused : Backend.connect url relays.rtp.inbound.port
        (p.basis.logPath relays.rtp.inbound.port request.media) p.registry.world.backends =
          (.error cause, backends)) :
      StartFails p request (.backendRefused cause) (p.withFloor
        { p.registry.world with
          backends := backends
          journal := p.registry.world.journal ++ [.launched relays.rtp.inbound.port,
            .connecting relays.rtp.inbound.port url.render
              (p.basis.logPath relays.rtp.inbound.port request.media),
            .givenUp relays.rtp.inbound.port] })

namespace Proxy

/-- A start that fails does so in one of two ways, and this is the proxy that it leaves. -/
theorem of_start_error (ho : Orderly p.registry) (h : p.start request = (.error fault, p')) :
    p.StartFails request fault p' := by
  by_cases hkey : ClientKey.of request.host request.port ∈ p.registry.keys
  · rw [start, if_pos ((isSome_lookup_iff ho _).mpr hkey)] at h
    cases h
    exact .unasked
  rw [start, if_neg (mt (isSome_lookup_iff ho _).mp hkey)] at h
  split at h
  next fault' hprepare =>
    cases h
    exact .unasked
  next second url hprepare =>
    simp only at h
    split at h
    next fault' site hsearch =>
      obtain rfl := Relay.search_error hsearch
      cases h
      exact .unasked
    next relays site hsearch =>
      obtain ⟨port, -, s₁, hrtp, hrtcp⟩ := Relay.search_ok hsearch
      have hport : (relays.start site).1.rtp.inbound.port = relays.rtp.inbound.port := by
        rw [Relay.Pair.start_eq, Relay.start_made hrtp.made]
      have hclosed := Relay.Pair.close_start hrtp hrtcp
      unfold engage at h
      simp only [Floor.launch, hport] at h
      split at h
      next cause backends hconnect =>
        simp only [Floor.giveUp, withFloor, Floor.note, hclosed, hport, List.append_assoc] at h
        cases h
        exact .turned_down hprepare hsearch hconnect
      next finished backends hconnect =>
        -- The client had no session, so registering cannot fail.
        cases h.symm.trans (enroll_eq ho finished (by rfl) hkey)

end Proxy

/-! ## No trace -/

/-- Whether an event is of a start that has not come to a session. -/
def Event.isAttempt : Event → Bool
  | .launched _ | .connecting .. | .givenUp _ => true
  | _ => false

/-- The proxy in front of a media server in another state. -/
def Proxy.facing (backends : β) (p : Proxy β) : Proxy β :=
  p.withFloor { p.registry.world with backends := backends }

/-- A proxy bears **no trace** of a start that was asked of another. -/
structure Proxy.NoTrace (p : Proxy β) (request : Amp.StartRequest) (p' : Proxy β) : Prop where
  basis : p'.basis = p.basis
  /-- Entries, keys, workers and those who observe them are the same. -/
  registry : p'.registry = { p.registry with world := p'.registry.world }
  /-- The sessions are the same, each with its relays and its backend. -/
  sessions : p'.registry.world.sessions = p.registry.world.sessions
  /-- The host's sockets are the same. -/
  site : p'.registry.world.site = p.registry.world.site
  /-- No session has been registered, started, ended or removed, and nothing else has happened to
  one. -/
  events : p'.registry.world.journal.filter (!·.isAttempt) =
    p.registry.world.journal.filter (!·.isAttempt)
  /-- The media server was not asked for a backend, or it was asked once, for two relays that had
  been allocated and started, and had none, and the relays were closed. -/
  connector : p'.registry.world.journal = p.registry.world.journal ∧
      p'.registry.world.backends = p.registry.world.backends ∨
    ∃ second url relays site log cause, Proxy.prepare p.basis request = .ok (second, url) ∧
      Relay.search p.basis.relayHost (ClientKey.of request.host request.port).text second
        p.basis.lowest p.basis.highest p.registry.world.site = (.ok relays, site) ∧
      Backend.connect url relays.rtp.inbound.port log p.registry.world.backends =
        (.error cause, p'.registry.world.backends) ∧
      p'.registry.world.journal =
        p.registry.world.journal ++ [.launched relays.rtp.inbound.port,
          .connecting relays.rtp.inbound.port url.render log, .givenUp relays.rtp.inbound.port]
  /-- With the media server in any state from then on, whatever is asked of the one proxy is
  answered as it is by the other, and leaves the same behind but for the journal. -/
  later : ∀ (backends : β) (others : List SocketAddress) (orders : List Order) (order : Order),
    ((Scene.run ⟨p'.facing backends, others⟩ orders).obey order).1 =
      ((Scene.run ⟨p.facing backends, others⟩ orders).obey order).1 ∧
    (Scene.run ⟨p'.facing backends, others⟩ orders).proxy.unwritten =
      (Scene.run ⟨p.facing backends, others⟩ orders).proxy.unwritten

/-- A start that fails leaves no trace, however it fails. -/
theorem Proxy.StartFails.noTrace (h : p.StartFails request fault p') : p.NoTrace request p' := by
  cases h with
  | unasked => exact ⟨rfl, rfl, rfl, rfl, rfl, .inl ⟨rfl, rfl⟩, fun _ _ _ _ => ⟨rfl, rfl⟩⟩
  | turned_down hprepared hallocated hrefused =>
    refine ⟨rfl, rfl, rfl, rfl, ?_, .inr ⟨_, _, _, _, _, _, hprepared, hallocated, hrefused, rfl⟩, ?_⟩
    · simp [withFloor, Event.isAttempt]
    · exact fun backends others => Scene.obey_eq_of_unwritten (by rfl) others

/-- **A start that fails leaves no trace.** Whatever has happened to a proxy before, on any host and
in front of any media server, and for whatever reason the start fails. -/
theorem start_leaves_no_trace (basis : Basis) (host : Host) (backends : β) (orders : List Order)
    {request : Amp.StartRequest} {fault : Fault} {p' : Proxy β}
    (h : ((Scene.idle basis host backends).run orders).proxy.start request = (.error fault, p')) :
    ((Scene.idle basis host backends).run orders).proxy.NoTrace request p' :=
  have hfit := (Scene.fit_idle basis host backends).run orders
  (Proxy.of_start_error hfit.orderly h).noTrace

/-- A client has a session, and the media server has no backend for another. -/
def halfServed : Scene Fates :=
  (Scene.idle loopbackBasis .idle ⟨[.works, .fails (.io "refused".toList)]⟩).run
    [.start ⟨loopback, 6000, "a.ts".toList⟩]

theorem start_leaves_no_trace_turned_down :
    (halfServed.proxy.start ⟨loopback, 6100, "b.ts".toList⟩).1 =
      .error (.backendRefused (.io "refused".toList)) ∧
    halfServed.proxy.NoTrace ⟨loopback, 6100, "b.ts".toList⟩
      (halfServed.proxy.start ⟨loopback, 6100, "b.ts".toList⟩).2 := by
  have hrefused : (halfServed.proxy.start ⟨loopback, 6100, "b.ts".toList⟩).1 =
      .error (.backendRefused (.io "refused".toList)) := by decide +kernel
  exact ⟨hrefused, start_leaves_no_trace _ _ _ _ (Prod.ext hrefused rfl)⟩

end MediaProxy
