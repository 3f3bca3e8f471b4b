import MediaProxy.Proofs.Proxy.Endings
import MediaProxy.Proofs.Proxy.Unfolding

/-!
# Starts that succeed

A start that succeeds has come by three things, each under the condition of the one before: the URL
of the media, two relays that have been allocated, and a backend that was opened for the first of
them (`Proxy.StartSucceeds`, `Proxy.of_start_ok`). The session that is registered is made of just
these. If its backend was over as soon as it was open, the session is ended at once; otherwise
registering it is all that has happened (`Proxy.Launched.registryAfter_eq`).
-/

namespace MediaProxy

open Registry

namespace Relay

/-- Two relays that have been started with nothing waiting for them. -/
def Pair.begun (p : Pair) : Pair := ⟨{ p.rtp with started := true }, { p.rtcp with started := true }⟩

/-- Relays that have just been allocated start without touching the site. -/
theorem Pair.start_of_search {host first second : Text} {lowest highest : UInt16} {pair : Pair}
    {s s' : Site} (h : search host first second lowest highest s = (.ok pair, s')) :
    pair.start s' = (pair.begun, s') := by
  obtain ⟨port, -, s₁, hrtp, hrtcp⟩ := search_ok h
  rw [Pair.start_eq, start_made hrtp.made, start_made hrtcp.made]
  rfl

end Relay

variable {β : Type} [Backend β] {p p' : Proxy β} {request : Amp.StartRequest} {f : Floor β} {s : Session}
  {finished : Bool}

namespace Proxy

/-- How a start **succeeds**, with the session that it registers, the floor on which it does so, and
whether the backend was over as soon as it was open. -/
inductive StartSucceeds (p : Proxy β) (request : Amp.StartRequest) : Floor β → Session → Bool → Prop where
  | launched {second : Text} {url : Url} {relays : Relay.Pair} {site : Site} {finished : Bool} {backends : β}
      (hasNone : ClientKey.of request.host request.port ∉ p.registry.keys)
      (prepared : Proxy.prepare p.basis request = .ok (second, url))
      (allocated : Relay.search p.basis.relayHost (ClientKey.of request.host request.port).text second
        p.basis.lowest p.basis.highest p.registry.world.site = (.ok relays, site))
      (connected : Backend.connect url relays.rtp.inbound.port
        (p.basis.logPath relays.rtp.inbound.port request.media) p.registry.world.backends =
          (.ok finished, backends)) :
      StartSucceeds p request { p.calling request url relays site with backends := backends }
        { Session.planned request url relays.begun with backend := p.registry.latches.length } finished

/-- A start that succeeds does so in one way, and this is the proxy that it leaves. -/
theorem of_start_ok (ho : Orderly p.registry) (h : p.start request = (.ok (), p')) :
    ∃ f s finished, p.StartSucceeds request f s finished ∧
      p' = ⟨p.basis, p.registryAfter f s finished⟩ := by
  by_cases hkey : ClientKey.of request.host request.port ∈ p.registry.keys
  · rw [start, if_pos ((isSome_lookup_iff ho _).mpr hkey)] at h
    cases h
  rw [start, if_neg (mt (isSome_lookup_iff ho _).mp hkey)] at h
  split at h
  next => cases h
  next second url hprepare =>
    simp only at h
    split at h
    next => cases h
    next relays site hsearch =>
      have hlaunch : p.withFloor (p.registry.world.launch relays site).2 =
          p.launching relays.begun site := by
        rw [Floor.launch, Relay.Pair.start_of_search hsearch]
        rfl
      rw [hlaunch, Floor.launch, Relay.Pair.start_of_search hsearch, engage_eq] at h
      split at h
      next => cases h
      next finished backends hconnect =>
        exact ⟨_, _, finished, .launched hkey hprepare hsearch hconnect,
          congrArg Prod.snd (h.symm.trans (enroll_eq ho finished (by rfl) hkey))⟩

/-- A start succeeds only for a client that has no session. -/
theorem StartSucceeds.client_not_mem (h : p.StartSucceeds request f s finished) :
    s.client ∉ p.registry.keys := by
  cases h with
  | launched hasNone => exact hasNone

/-- A start that succeeds has launched both relays. -/
theorem StartSucceeds.launches (h : p.StartSucceeds request f s finished) : p.Launched request f s := by
  cases h with
  | launched _ _ hsearch =>
    have ha := allocated_of_search hsearch
    rw [Relay.Pair.start_of_search hsearch] at ha
    exact ⟨rfl, rfl, ha.fails, rfl, ha.holds, ha.free, ha.homed⟩

/-! ## What becomes of the session -/

/-- The registry in which a session has been put under its key, and no more. -/
def enlisting (p : Proxy β) (f : Floor β) (s : Session) (finished : Bool) : Sessions β :=
  ((p.withFloor f).registry.withSession (if finished then .finished else .fresh) s).enlisted
    Session.contract s.client p.registry.entries.length

/-- A registry stays orderly when two relays are launched. -/
theorem Launched.orderly_withFloor (h : p.Launched request f s) (ho : Orderly p.registry) :
    Orderly (p.withFloor f).registry :=
  ho.refloor (by rw [h.sessions]) fun m t ht => ⟨t, h.sessions ▸ ht, .refl t, id⟩

/-- The registry is orderly when the session of two launched relays has been enlisted. -/
theorem Launched.orderly_enlisting (h : p.Launched request f s) (ho : Orderly p.registry)
    (hkey : s.client ∉ p.registry.keys) (finished : Bool) : Orderly (p.enlisting f s finished) :=
  orderly_enlisted ho h.sessions finished hkey h.backend h.fails

/-- Enlisting the session of two launched relays leaves all others as they are. -/
theorem Launched.aside_enlisting (h : p.Launched request f s) (ho : Orderly p.registry) (finished : Bool) :
    Aside [p.registry.entries.length] (p.withFloor f).registry (p.enlisting f s finished) :=
  (h.orderly_withFloor ho).aside_enlist _ s

/-- The new session is under its client and has not ended. -/
theorem enlisting_entry (p : Proxy β) (f : Floor β) (s : Session) (finished : Bool) :
    ∃ entry, (p.enlisting f s finished).entries[p.registry.entries.length]? = some entry ∧
      entry.stage = .armed ∧ entry.key = s.client :=
  ⟨_, List.getElem?_concat_length .., rfl, rfl⟩

/-- The new session has the number after all others. -/
theorem Launched.enlisting_session (h : p.Launched request f s) (ho : Orderly p.registry)
    (finished : Bool) :
    (p.enlisting f s finished).world.sessions[p.registry.entries.length]? = some s := by
  have hlength : p.registry.entries.length = f.sessions.length := by rw [h.sessions, ho.sessions]
  rw [enlisting, sessions_enlisted, hlength]
  exact List.getElem?_concat_length ..

/-- The worker of the new session is over exactly if its backend was so at once. -/
theorem isFinished_enlisting (ho : Orderly p.registry) (f : Floor β) (s : Session) (finished : Bool) :
    (p.enlisting f s finished).isFinished p.registry.entries.length = finished := by
  have hlatches : (p.withFloor f).registry.latches.length = (p.withFloor f).registry.entries.length :=
    ho.latches
  refine (isFinished_enlisted_self hlatches _ s).trans ?_
  cases finished <;> rfl

/-- What becomes of a launched session whose backend is at work, and of one whose backend is not. -/
theorem Launched.registryAfter_eq (h : p.Launched request f s) (ho : Orderly p.registry)
    (hs : Settled p.registry) (hkey : s.client ∉ p.registry.keys) (finished : Bool) :
    p.registryAfter f s finished =
      if finished then (p.enlisting f s finished).ended p.registry.entries.length
      else p.enlisting f s finished := by
  have horderly := h.orderly_enlisting ho hkey finished
  have haside := h.aside_enlisting ho finished
  have hdone := isFinished_enlisting ho f s finished
  obtain ⟨entry, he, harmed, -⟩ := p.enlisting_entry f s finished
  cases finished with
  | true => exact (h.orderly_withFloor ho).settle_armed (hs.refloor f) horderly haside he harmed hdone
  | false =>
    refine settle_of_settled (horderly.settled_of fun m other hother hfired => ?_)
    by_cases hm : m = p.registry.entries.length
    · exact hm ▸ hdone
    · have hnot : m ∉ [p.registry.entries.length] := by simpa using hm
      rw [haside.entries m hnot] at hother
      rw [haside.finished m hnot]
      exact (ho.armed hs hother hfired).2

/-- A launched session is the latest of all sessions. Its relays are closed if its backend was over.
-/
theorem Launched.sessions_registryAfter (h : p.Launched request f s) (ho : Orderly p.registry)
    (hs : Settled p.registry) (hkey : s.client ∉ p.registry.keys) (finished : Bool) :
    (p.registryAfter f s finished).world.sessions =
      p.registry.world.sessions ++ [if finished then s.silenced f.site else s] := by
  have hsessions : (p.enlisting f s finished).world.sessions = f.sessions ++ [s] := sessions_enlisted ..
  rw [h.sessions] at hsessions
  rw [h.registryAfter_eq ho hs hkey]
  cases finished with
  | false => exact hsessions
  | true =>
    obtain ⟨entry, he, harmed, -⟩ := p.enlisting_entry f s true
    have hsite : (p.enlisting f s true).world.site = f.site := site_enlisted ..
    rw [if_pos rfl, if_pos rfl,
      (h.orderly_enlisting ho hkey true).ended_eq he harmed (h.enlisting_session ho true), hsessions,
      ← ho.sessions, hsite]
    simp

/-- What the world is when a launched session has been put under its key and its start announced. -/
theorem Launched.world_enlisting (h : p.Launched request f s) (ho : Orderly p.registry)
    (hkey : s.client ∉ p.registry.keys) (finished : Bool) :
    (p.enlisting f s finished).world =
      { f with
        sessions := f.sessions ++ [s]
        journal := f.journal ++ [.registered p.registry.entries.length,
          .started p.registry.entries.length] } := by
  have hsession : ((p.withFloor f).registry.withSession (if finished then .finished else .fresh)
      s).world.sessions[p.registry.entries.length]? = some s := by
    rw [← ho.sessions, ← h.sessions]
    exact getElem?_withSession_self _
  rw [enlisting, world_enlisted_session hsession hkey]
  simp [withSession, withFloor, Floor.note]

/-- What is told of a launched session. -/
theorem Launched.journal_registryAfter (h : p.Launched request f s) (ho : Orderly p.registry)
    (hs : Settled p.registry) (hkey : s.client ∉ p.registry.keys) (finished : Bool) :
    (p.registryAfter f s finished).world.journal = f.journal ++
      .registered p.registry.entries.length :: .started p.registry.entries.length ::
        (if finished then Event.ofEnd p.registry.entries.length true else []) := by
  have hjournal : (p.enlisting f s finished).world.journal =
      f.journal ++ [.registered p.registry.entries.length, .started p.registry.entries.length] := by
    rw [h.world_enlisting ho hkey]
  rw [h.registryAfter_eq ho hs hkey]
  cases finished with
  | false => exact hjournal
  | true =>
    obtain ⟨entry, he, harmed, -⟩ := p.enlisting_entry f s true
    rw [if_pos rfl, if_pos rfl,
      (h.orderly_enlisting ho hkey true).ended_eq he harmed (h.enlisting_session ho true), hjournal,
      isFinished_enlisting ho f s true, List.append_assoc]
    rfl

end Proxy

end MediaProxy
