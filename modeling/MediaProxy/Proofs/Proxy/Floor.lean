import MediaProxy.Proofs.Registry.Ending
import MediaProxy.Proofs.Relay.Holding
import MediaProxy.Proxy.Session

/-!
# The floor of sessions

What is true of all that the sessions of a proxy share (`Floor`: the host, the backends, the
sessions with their relays) without looking at the registry they are kept in: which relays there are
(`Floor.relays`), that the host's sockets are theirs (`Floor.Holds`), and what a session keeps
whatever its relays do (`Session.Follows`). Every change of the world that the sessions' contract
makes is of that kind: a call on the contract leaves all sessions with their clients and backends,
and no relay is opened again.
-/

namespace MediaProxy

open Registry

/-! ## Relays by side -/

namespace Relay.Pair

variable {p : Pair} {r : Relay}

@[simp] theorem side_setSide_self (control : Bool) : (p.setSide control r).side control = r := by
  cases control <;> rfl

@[simp] theorem side_setSide_not (control : Bool) :
    (p.setSide control r).side (!control) = p.side (!control) := by
  cases control <;> rfl

theorem close_eq (p : Pair) (s : Site) : p.close s =
    (⟨(p.rtp.close s).1, (p.rtcp.close (p.rtp.close s).2).1⟩,
      (p.rtcp.close (p.rtp.close s).2).2) := rfl

theorem start_eq (p : Pair) (s : Site) : p.start s =
    (⟨(p.rtp.start s).2.1, (p.rtcp.start (p.rtp.start s).2.2).2.1⟩,
      (p.rtcp.start (p.rtp.start s).2.2).2.2) := rfl

end Relay.Pair

/-! ## What a session keeps -/

namespace Session

/-- A session that **follows** another is that session later: its relays may have closed, by
themselves with an error. -/
structure Follows (s s' : Session) : Prop where
  client : s'.client = s.client
  backend : s'.backend = s.backend
  inbound : ∀ control, (s'.relays.side control).inbound = (s.relays.side control).inbound
  closed : ∀ control, (s.relays.side control).closed = true → (s'.relays.side control).closed = true

/-- A relay that is closed has failed: it has an error. -/
def Fails (s : Session) : Prop :=
  ∀ control, (s.relays.side control).closed = true → (s.relays.side control).error.isSome = true

variable {s s' s'' : Session}

theorem Follows.refl (s : Session) : s.Follows s := ⟨rfl, rfl, fun _ => rfl, fun _ h => h⟩

theorem Follows.trans (h : s.Follows s') (h' : s'.Follows s'') : s.Follows s'' :=
  ⟨h'.client.trans h.client, h'.backend.trans h.backend,
    fun control => (h'.inbound control).trans (h.inbound control),
    fun control hc => h'.closed control (h.closed control hc)⟩

variable {p : Option Text → Prop} {r' : Relay} {site site' : Site}

/-- A session with one relay that has gone on follows the one that it was. -/
theorem follows_setSide (control : Bool)
    (he : Relay.Evolves p (s.relays.side control) site r' site') :
    s.Follows { s with relays := s.relays.setSide control r' } := by
  refine ⟨rfl, rfl, ?_, ?_⟩
  · intro side
    by_cases h : side = control
    · subst h
      simpa using he.inbound
    · obtain rfl : side = !control := by cases side <;> cases control <;> simp_all
      simp
  · intro side hc
    by_cases h : side = control
    · subst h
      simpa using he.closed hc
    · obtain rfl : side = !control := by cases side <;> cases control <;> simp_all
      simpa using hc

/-- A session whose relays close only by failing is still so when one of them goes on by itself. -/
theorem fails_setSide (hs : s.Fails) (control : Bool)
    (he : Relay.EvolvesByItself (s.relays.side control) site r' site') :
    Fails { s with relays := s.relays.setSide control r' } := by
  intro side hc
  by_cases h : side = control
  · subst h
    rw [Relay.Pair.side_setSide_self] at hc ⊢
    exact he.error hc (hs side)
  · obtain rfl : side = !control := by cases side <;> cases control <;> simp_all
    rw [Relay.Pair.side_setSide_not] at hc ⊢
    exact hs _ hc

end Session

/-! ## All relays -/

namespace Floor

variable {β : Type} {f : Floor β} {n m : SessionId} {s : Session}
  {others targets : List SocketAddress}

/-- The relays of all sessions that ever were. -/
def relays (f : Floor β) : List Relay := f.sessions.flatMap fun s => [s.relays.rtp, s.relays.rtcp]

/-- The sockets of the host are those of open relays, and some that others **hold**. -/
def Holds (others targets : List SocketAddress) (f : Floor β) : Prop :=
  Relay.Holds others targets f.site.host f.relays

/-- One relay of a session, among all relays, and what stands in its place when it is another. -/
theorem relays_setSide (hs : f.sessions[n]? = some s) (control : Bool) :
    ∃ rest, f.relays.Perm (s.relays.side control :: rest) ∧
      ∀ r site, ({ f with site := site }.setSession n
        { s with relays := s.relays.setSide control r }).relays.Perm (r :: rest) := by
  obtain ⟨_, _, sessions, _⟩ := f
  simp only [relays, setSession] at hs ⊢
  -- By induction on the sessions in front: the two relays of each stay where they are.
  induction sessions generalizing n with
  | nil => simp at hs
  | cons first later ih =>
    cases n with
    | zero =>
      obtain rfl : first = s := by simpa using hs
      refine ⟨first.relays.side (!control) ::
        later.flatMap fun s => [s.relays.rtp, s.relays.rtcp], ?_, ?_⟩
      · cases control
        · exact .refl _
        · exact .swap ..
      · intro r _
        cases control
        · exact .refl _
        · exact .swap ..
    | succ n =>
      obtain ⟨rest, hrest, hset⟩ := ih (by simpa using hs)
      have hmiddle : ∀ r, ([first.relays.rtp, first.relays.rtcp] ++ r :: rest).Perm
          (r :: ([first.relays.rtp, first.relays.rtcp] ++ rest)) := fun _ => List.perm_middle
      refine ⟨first.relays.rtp :: first.relays.rtcp :: rest, ?_, ?_⟩
      · exact (hrest.append_left [first.relays.rtp, first.relays.rtcp]).trans (hmiddle _)
      · intro r site
        exact ((hset r site).append_left [first.relays.rtp, first.relays.rtcp]).trans (hmiddle r)

variable {p : Option Text → Prop} {r' : Relay} {site' : Site}

/-- Whatever one relay of a session does, the account stays right. -/
theorem Holds.setSide (h : f.Holds others targets) (control : Bool) (hs : f.sessions[n]? = some s)
    (he : Relay.Evolves p (s.relays.side control) f.site r' site') :
    ({ f with site := site' }.setSession n
      { s with relays := s.relays.setSide control r' }).Holds others targets := by
  obtain ⟨rest, hrest, hset⟩ := relays_setSide hs control
  exact (Relay.Holds.evolve (Relay.Holds.perm h hrest) he).perm (hset r' site').symm

/-- To put a session in a place changes that place only. -/
theorem getElem?_setSession (hs : f.sessions[n]? = some s) (s' : Session) :
    (f.setSession n s').sessions[m]? = if n = m then some s' else f.sessions[m]? := by
  have hlt := (List.getElem?_eq_some_iff.mp hs).1
  by_cases h : n = m
  · subst h
    simp [setSession, hlt]
  · simp [setSession, h]

@[simp] theorem sessions_note (f : Floor β) (e : Event) : (f.note e).sessions = f.sessions := rfl

/-! ## The contract -/

section Contract

variable [Backend β] (w : WorkerId) (done : Bool) (f : Floor β)

@[simp] theorem sessions_halt : (f.halt w done).sessions = f.sessions := by
  cases done <;> rfl

@[simp] theorem site_halt : (f.halt w done).site = f.site := by
  cases done <;> rfl

end Contract

end Floor

namespace Session

variable {β : Type} {f : Floor β} {n m : SessionId} {s : Session}
  {others targets : List SocketAddress}

/-- The session when its relays have been closed. -/
def silenced (s : Session) (site : Site) : Session := { s with relays := (s.relays.close site).1 }

/-- Silencing a session changes that session only. -/
theorem sessions_silence (n : SessionId) (s : Session) (finished : Bool) (f : Floor β) :
    (silence n s finished f).sessions = f.sessions.set n (s.silenced f.site) := rfl

/-- Closing the relays of a session is closing the one and then the other. -/
theorem holds_silence (h : f.Holds others targets) (hs : f.sessions[n]? = some s) (finished : Bool) :
    (silence n s finished f).Holds others targets := by
  have hlt := (List.getElem?_eq_some_iff.mp hs).1
  let first : Session := { s with relays := s.relays.setSide false (s.relays.rtp.close f.site).1 }
  have hfirst := h.setSide false hs (Relay.evolves_shutdown none s.relays.rtp f.site)
  have hsecond := hfirst.setSide true (n := n) (s := first)
    (by simp [Floor.setSession, hlt, first, Relay.close])
    (Relay.evolves_shutdown none s.relays.rtcp _)
  simpa [silence, Floor.Holds, Floor.note, Floor.setSession, Floor.relays, first, Relay.Pair.close_eq,
    Relay.close, Relay.Pair.setSide] using hsecond

/-- A relay is closed once somebody has closed it. -/
theorem closed_close (r : Relay) (site : Site) : (r.close site).1.closed = true := by
  unfold Relay.close Relay.shutdown
  split
  next h => exact h
  next => rfl

/-- A session that is silenced has both relays closed. -/
theorem closed_silenced (s : Session) (site : Site) (control : Bool) :
    ((s.silenced site).relays.side control).closed = true := by
  cases control
  · exact closed_close ..
  · exact closed_close ..

/-- A session that is silenced follows the one that it was. -/
theorem follows_silenced (s : Session) (site : Site) : s.Follows (s.silenced site) := by
  refine .trans (follows_setSide false (Relay.evolves_shutdown none s.relays.rtp site)) ?_
  exact follows_setSide true (Relay.evolves_shutdown none s.relays.rtcp _)

end Session

end MediaProxy
