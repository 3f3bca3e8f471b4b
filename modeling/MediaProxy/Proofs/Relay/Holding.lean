import Mathlib.Data.List.Perm.Basic
import MediaProxy.Proofs.Net.Resolving
import MediaProxy.Relay.Forward
import MediaProxy.Relay.Pair

/-!
# What relays hold

A relay that is open holds two sockets of the host, one bound and one outbound; a relay that is
closed holds none. `Holds` says that the sockets of a host are those of some relays and some more
that belong to others. It is kept by everything that a relay does after it is made: either its
sockets stay as they are, or it is closed and both are given up (`Evolves`, `Holds.evolve`).

Making relays adds their sockets, or nothing when it fails: an attempt that fails leaves the site
exactly as it was, however far it came (`tryOpen_error`, `tryPair_error`, `search_error`).
-/

namespace MediaProxy

/-! ## The host -/

namespace Host

variable {h h' : Host} {a a' : SocketAddress}

/-- An address that is bound exactly was free, and is bound now. -/
theorem bindExactly_ok (hb : h.bindExactly a = .ok (a', h')) :
    a' = a ∧ h.isFree a = true ∧ h' = { h with bound := a :: h.bound } := by
  unfold bindExactly at hb
  split at hb
  next hfree => exact ⟨by cases hb; rfl, hfree, by cases hb; rfl⟩
  next => cases hb

/-- A bound address was free; it is one of the same IP address that names no zone. -/
theorem bind_ok (hb : h.bind a = .ok (a', h')) :
    h.isFree a' = true ∧ h' = { h with bound := a' :: h.bound } ∧ a'.unzoned = a' ∧ a'.ip = a.ip := by
  unfold bind at hb
  split at hb
  · cases hb
  split at hb
  · split at hb
    · obtain ⟨rfl, hfree, rfl⟩ := bindExactly_ok hb
      exact ⟨hfree, rfl, rfl, rfl⟩
    · cases hb
  split at hb
  · cases hb
  obtain ⟨rfl, hfree, rfl⟩ := bindExactly_ok hb
  exact ⟨hfree, rfl, rfl, rfl⟩

/-- A target that is connected to is one more. -/
theorem connect_ok (hc : h.connect a = .ok h') : h' = { h with outbound := a :: h.outbound } := by
  unfold connect at hc
  split at hc <;> cases hc
  rfl

end Host

namespace Relay

variable {r r' r'' : Relay} {s s' s'' : Site} {rest : List Relay}
  {others targets : List SocketAddress}

/-! ## Sockets of relays -/

/-- Those of some relays that are open. -/
def openOnes (rs : List Relay) : List Relay := rs.filter fun r => !r.closed

/-- The sockets of a host are those of the open ones among some relays, and some that others
**hold**. -/
structure Holds (others targets : List SocketAddress) (h : Host) (rs : List Relay) : Prop where
  bound : h.bound.Perm (others ++ (openOnes rs).map inbound)
  outbound : h.outbound.Perm (targets ++ (openOnes rs).map target)
  unzoned : ∀ r ∈ rs, r.inbound.unzoned = r.inbound

/-- How a relay and its site **evolve**: the sockets stay as they are, or the relay is closed and
gives both up. What `p` says is true of the error that it is closed with. -/
inductive Evolves (p : Option Text → Prop) (r : Relay) (s : Site) (r' : Relay) (s' : Site) :
    Prop where
  | stays (inbound : r'.inbound = r.inbound) (target : r'.target = r.target)
      (closed : r'.closed = r.closed)
      (error : r'.error = r.error) (host : s'.host = s.host)
  | closes (wasOpen : r.closed = false) (inbound : r'.inbound = r.inbound)
      (target : r'.target = r.target)
      (closed : r'.closed = true) (error : p r'.error)
      (host : s'.host = (s.host.release r.inbound).disconnect r.target)

variable {p : Option Text → Prop}

theorem Evolves.refl (p : Option Text → Prop) (r : Relay) (s : Site) : Evolves p r s r s :=
  .stays rfl rfl rfl rfl rfl

theorem Evolves.trans (h : Evolves p r s r' s') (h' : Evolves p r' s' r'' s'') :
    Evolves p r s r'' s'' := by
  cases h with
  | stays hi ht hc he hh =>
    cases h' with
    | stays hi' ht' hc' he' hh' =>
      exact .stays (hi'.trans hi) (ht'.trans ht) (hc'.trans hc) (he'.trans he) (hh'.trans hh)
    | closes ho' hi' ht' hc' he' hh' =>
      exact .closes (hc ▸ ho') (hi'.trans hi) (ht'.trans ht) hc' he' (by rw [hh', hh, hi, ht])
  | closes ho hi ht hc he hh =>
    cases h' with
    | stays hi' ht' hc' he' hh' =>
      exact .closes ho (hi'.trans hi) (ht'.trans ht) (hc'.trans hc) (he' ▸ he) (hh'.trans hh)
    | closes ho' =>
      rw [hc] at ho'
      cases ho'

/-- A relay keeps its address, however it evolves. -/
theorem Evolves.inbound (h : Evolves p r s r' s') : r'.inbound = r.inbound := by
  cases h <;> assumption

/-- A relay that is closed stays so, however it evolves. -/
theorem Evolves.closed (h : Evolves p r s r' s') (hc : r.closed = true) : r'.closed = true := by
  cases h with
  | stays _ _ hc' => rw [hc', hc]
  | closes _ _ _ hc' => exact hc'

/-- A relay that is closed has been closed before, or with an error of the kind. -/
theorem Evolves.error (h : Evolves p r s r' s') (hc : r'.closed = true)
    (he : r.closed = true → p r.error) :
    p r'.error := by
  cases h with
  | stays _ _ hc' he' => exact he' ▸ he (hc' ▸ hc)
  | closes _ _ _ _ he' => exact he'

/-! ## What relays do -/

/-- A relay that is shut down evolves. -/
theorem evolves_shutdown (error : Option Text) (r : Relay) (s : Site) :
    Evolves (· = error) r s (shutdown error r s).1 (shutdown error r s).2 := by
  unfold shutdown
  cases hc : r.closed with
  | true => exact .refl _ r s
  | false => exact .closes hc rfl rfl rfl rfl rfl

theorem Evolves.mono {q : Option Text → Prop} (h : Evolves p r s r' s') (hpq : ∀ e, p e → q e) :
    Evolves q r s r' s' := by
  cases h with
  | stays hi ht hc he hh => exact .stays hi ht hc he hh
  | closes ho hi ht hc he hh => exact .closes ho hi ht hc (hpq _ he) hh

/-- By itself a relay closes only with an error. -/
abbrev EvolvesByItself : Relay → Site → Relay → Site → Prop :=
  Evolves fun error => error.isSome = true

/-- A relay evolves when datagrams wait in it. -/
theorem evolves_queue (queue : List Bytes) (r : Relay) (s : Site) :
    EvolvesByItself r s { r with waiting := queue } s := .stays rfl rfl rfl rfl rfl

/-- A relay evolves when it sends a datagram. -/
theorem evolves_send (datagram : Bytes) (r : Relay) (s : Site) :
    EvolvesByItself r s (send datagram r s).2.1 (send datagram r s).2.2 := by
  unfold send
  split
  · exact .refl _ r s
  split
  · exact (evolves_shutdown _ r s).mono fun e he => by rw [he, Option.isSome_some]
  · exact .stays rfl rfl rfl rfl rfl

/-- A relay evolves when it sends some datagrams. -/
theorem evolves_sendAll (datagrams : List Bytes) (r : Relay) (s : Site) :
    EvolvesByItself r s (sendAll datagrams r s).2.1 (sendAll datagrams r s).2.2 := by
  induction datagrams generalizing r s with
  | nil => exact .refl _ r s
  | cons datagram rest ih => exact (evolves_send datagram r s).trans (ih ..)

/-- A relay evolves when it sends what waits. -/
theorem evolves_pump (r : Relay) (s : Site) : EvolvesByItself r s (pump r s).2.1 (pump r s).2.2 := by
  unfold pump
  split
  · exact (evolves_queue [] r s).trans (evolves_sendAll ..)
  · exact .refl _ r s

/-- A relay evolves when it is started. -/
theorem evolves_start (r : Relay) (s : Site) :
    EvolvesByItself r s (start r s).2.1 (start r s).2.2 := by
  have hflag : EvolvesByItself r s { r with started := true } s := .stays rfl rfl rfl rfl rfl
  unfold start
  split
  · exact .refl _ r s
  · exact hflag.trans (evolves_pump ..)

/-- A relay evolves when a datagram arrives. -/
theorem evolves_arrive (datagram : Bytes) (r : Relay) (s : Site) :
    EvolvesByItself r s (arrive datagram r s).2.1 (arrive datagram r s).2.2 := by
  unfold arrive
  split
  · exact .refl _ r s
  · exact (evolves_queue _ r s).trans (evolves_pump ..)

/-! ## Keeping account -/

/-- Whose the sockets are does not depend on the order of the relays. -/
theorem Holds.perm {rs rs' : List Relay} {h : Host} (hh : Holds others targets h rs)
    (hp : rs.Perm rs') :
    Holds others targets h rs' := by
  have hopen : (openOnes rs).Perm (openOnes rs') := hp.filter _
  exact ⟨hh.bound.trans ((hopen.map _).append_left _),
    hh.outbound.trans ((hopen.map _).append_left _),
    fun r hr => hh.unzoned r (hp.mem_iff.mpr hr)⟩

theorem openOnes_cons_of_open (h : r.closed = false) : openOnes (r :: rest) = r :: openOnes rest := by
  simp [openOnes, h]

theorem openOnes_cons_of_closed (h : r.closed = true) : openOnes (r :: rest) = openOnes rest := by
  simp [openOnes, h]

theorem openOnes_cons_congr (h : r'.closed = r.closed) {α : Type} (f : Relay → α) (hf : f r' = f r) :
    (openOnes (r' :: rest)).map f = (openOnes (r :: rest)).map f := by
  cases hc : r.closed with
  | true => rw [openOnes_cons_of_closed hc, openOnes_cons_of_closed (h.trans hc)]
  | false =>
    rw [openOnes_cons_of_open hc, openOnes_cons_of_open (h.trans hc), List.map_cons, List.map_cons,
      hf]

/-- To erase one from between others leaves these. -/
theorem perm_erase_append {x : SocketAddress} {l as bs : List SocketAddress}
    (h : l.Perm (as ++ x :: bs)) : (l.erase x).Perm (as ++ bs) := by
  have := (h.trans List.perm_middle).erase x
  rwa [List.erase_cons_head] at this

/-- Whatever a relay does, the account stays right. -/
theorem Holds.evolve (hh : Holds others targets s.host (r :: rest)) (h : Evolves p r s r' s') :
    Holds others targets s'.host (r' :: rest) := by
  have hrest : ∀ r ∈ rest, r.inbound.unzoned = r.inbound := fun r hr =>
    hh.unzoned r (List.mem_cons_of_mem _ hr)
  have hself := hh.unzoned r List.mem_cons_self
  cases h with
  | stays hi ht hc he hs =>
    rw [hs]
    refine ⟨?_, ?_, List.forall_mem_cons.mpr ⟨hi ▸ hself, hrest⟩⟩
    · rw [openOnes_cons_congr hc Relay.inbound hi]
      exact hh.bound
    · rw [openOnes_cons_congr hc Relay.target ht]
      exact hh.outbound
  | closes ho hi ht hc _ hs =>
    rw [hs]
    have hbound := hh.bound
    have houtbound := hh.outbound
    rw [openOnes_cons_of_open ho, List.map_cons] at hbound houtbound
    refine ⟨?_, ?_, List.forall_mem_cons.mpr ⟨hi ▸ hself, hrest⟩⟩
    · rw [openOnes_cons_of_closed hc]
      simpa only [Host.release, Host.disconnect, hself] using perm_erase_append hbound
    · rw [openOnes_cons_of_closed hc]
      simpa only [Host.release, Host.disconnect] using perm_erase_append houtbound

/-! ## Making a relay -/

/-- The site with the sockets of one more relay. -/
def withSockets (r : Relay) (s : Site) : Site :=
  { s with host := { s.host with
      bound := r.inbound :: s.host.bound, outbound := r.target :: s.host.outbound } }

/-- An attempt to make a relay that fails leaves everything as it was. -/
theorem tryOpen_error {inbound target : Text} {fault : Fault}
    (h : tryOpen inbound target s = (.error fault, s')) : s' = s := by
  unfold tryOpen at h
  split at h
  · exact (congrArg Prod.snd h).symm
  split at h
  · exact (congrArg Prod.snd h).symm
  split at h
  · exact (congrArg Prod.snd h).symm
  next bound host hbind =>
    obtain ⟨-, rfl, hunzoned, -⟩ := Host.bind_ok hbind
    split at h
    · refine (congrArg Prod.snd h).symm.trans ?_
      simp [Host.release, hunzoned]
    · cases h

/-- A relay that has been made: nobody could have bound its address, and now it holds its sockets.
-/
structure Opened (inbound : Text) (r : Relay) (s s' : Site) : Prop where
  made : r = .made r.inbound r.target
  free : s.host.isFree r.inbound = true
  unzoned : r.inbound.unzoned = r.inbound
  ip : ∃ a, resolve inbound = .ok a ∧ r.inbound.ip = a.ip
  site : s' = r.withSockets s

/-- A relay that could be opened has been made and holds its sockets. -/
theorem tryOpen_ok {inbound target : Text} (h : tryOpen inbound target s = (.ok r, s')) :
    Opened inbound r s s' := by
  unfold tryOpen at h
  split at h
  · cases h
  next a ha =>
    split at h
    · cases h
    split at h
    · cases h
    next bound host hbind =>
      obtain ⟨hfree, rfl, hunzoned, hip⟩ := Host.bind_ok hbind
      split at h
      · cases h
      next host hconnect =>
        obtain rfl := Host.connect_ok hconnect
        cases h
        exact ⟨rfl, hfree, hunzoned, ⟨a, ha, hip⟩, rfl⟩

/-- A relay **has its home** at a host: its address is one of the host's. -/
def HasHome (host : Text) (r : Relay) : Prop := ∃ zone, locate host = .ok (r.inbound.ip, zone)

theorem HasHome.of_inbound {host : Text} (h : r.HasHome host) (heq : r'.inbound = r.inbound) :
    r'.HasHome host := by
  rwa [HasHome, heq]

/-- A relay that was opened at a host has its home there. -/
theorem Opened.hasHome {host : Text} {port : UInt16} (h : Opened (joinHostPort host port) r s s') :
    r.HasHome host := by
  obtain ⟨a, ha, hip⟩ := h.ip
  exact ⟨a.zone, hip ▸ (resolve_joinHostPort ha).1⟩

/-- Closing a relay that has just been made gives everything back. -/
theorem close_withSockets (hm : r = .made r.inbound r.target) (hu : r.inbound.unzoned = r.inbound) :
    (r.close (r.withSockets s)).2 = s := by
  rw [hm]
  simp [close, shutdown, made, withSockets, Latch.finish, Latch.fresh, Host.release,
    Host.disconnect, hu]

/-! ## Making a pair -/

/-- A pair that could not be opened leaves nothing behind. -/
theorem tryPair_error {host first second : Text} {port : UInt16} {fault : Fault}
    (h : tryPair host first second port s = (.error fault, s')) : s' = s := by
  unfold tryPair at h
  split at h
  next fault' s₁ hrtp =>
    cases h
    exact tryOpen_error hrtp
  next rtp s₁ hrtp =>
    have hopened := tryOpen_ok hrtp
    split at h
    next fault' s₂ hrtcp =>
      obtain rfl := tryOpen_error hrtcp
      obtain rfl := hopened.site
      exact (congrArg Prod.snd h).symm.trans (close_withSockets hopened.made hopened.unzoned)
    next => cases h

/-- A pair that has been made is two relays that have been made one after the other. -/
theorem tryOpen_of_tryPair {host first second : Text} {port : UInt16} {pair : Pair}
    (h : tryPair host first second port s = (.ok pair, s')) :
    ∃ s₁, tryOpen (joinHostPort host port) first s = (.ok pair.rtp, s₁) ∧
      tryOpen (joinHostPort host (port + 1)) second s₁ = (.ok pair.rtcp, s') := by
  unfold tryPair at h
  split at h
  next => cases h
  next rtp s₁ hrtp =>
    split at h
    next => cases h
    next rtcp s₂ hrtcp =>
      cases h
      exact ⟨s₁, hrtp, hrtcp⟩

/-- A pair that could be opened is two relays opened one after the other. -/
theorem tryPair_ok {host first second : Text} {port : UInt16} {pair : Pair}
    (h : tryPair host first second port s = (.ok pair, s')) :
    ∃ s₁, Opened (joinHostPort host port) pair.rtp s s₁ ∧
      Opened (joinHostPort host (port + 1)) pair.rtcp s₁ s' :=
  let ⟨s₁, hrtp, hrtcp⟩ := tryOpen_of_tryPair h
  ⟨s₁, tryOpen_ok hrtp, tryOpen_ok hrtcp⟩

/-- A search that fails leaves everything as it was. -/
theorem search_error {host first second : Text} {lowest highest : UInt16} {fault : Fault}
    (h : search host first second lowest highest s = (.error fault, s')) : s' = s := by
  unfold search at h
  generalize candidates lowest highest = ports at h
  induction ports with
  | nil => exact (congrArg Prod.snd h).symm
  | cons port rest ih =>
    unfold tryFirst at h
    split at h
    next => cases h
    next fault' s₁ hpair =>
      obtain rfl := tryPair_error hpair
      split at h
      · exact (congrArg Prod.snd h).symm
      · exact ih h

/-- A search that succeeds does so at one of the ports, as if it had tried no other. -/
theorem tryPair_of_search {host first second : Text} {lowest highest : UInt16} {pair : Pair}
    (h : search host first second lowest highest s = (.ok pair, s')) :
    ∃ port ∈ candidates lowest highest, tryPair host first second port s = (.ok pair, s') := by
  unfold search at h
  generalize candidates lowest highest = ports at h ⊢
  induction ports with
  | nil => cases congrArg Prod.fst h
  | cons port rest ih =>
    unfold tryFirst at h
    split at h
    next found s₁ hpair =>
      cases h
      exact ⟨port, List.mem_cons_self, hpair⟩
    next fault' s₁ hpair =>
      -- The attempt that failed has given everything back, so the next one begins on the same site.
      obtain rfl := tryPair_error hpair
      split at h
      · cases congrArg Prod.fst h
      · obtain ⟨port', hport', hpair'⟩ := ih h
        exact ⟨port', List.mem_cons_of_mem _ hport', hpair'⟩

/-- A search that succeeds has made a pair at one of the ports. -/
theorem search_ok {host first second : Text} {lowest highest : UInt16} {pair : Pair}
    (h : search host first second lowest highest s = (.ok pair, s')) :
    ∃ port ∈ candidates lowest highest, ∃ s₁, Opened (joinHostPort host port) pair.rtp s s₁ ∧
      Opened (joinHostPort host (port + 1)) pair.rtcp s₁ s' :=
  let ⟨port, hport, hpair⟩ := tryPair_of_search h
  ⟨port, hport, tryPair_ok hpair⟩

/-- A search fails for want of ports, or for a reason that no other port could mend. -/
theorem fault_of_search {host first second : Text} {lowest highest : UInt16} {fault : Fault}
    (h : (search host first second lowest highest s).1 = .error fault) :
    fault = .portsExhausted lowest highest ∨ isFinal fault = true := by
  unfold search at h
  generalize candidates lowest highest = ports at h
  induction ports generalizing s with
  | nil => exact .inl (Except.error.inj h).symm
  | cons port rest ih =>
    unfold tryFirst at h
    split at h
    next => cases h
    next fault' s₁ hpair =>
      split at h
      next hfinal => exact .inr (Except.error.inj h ▸ hfinal)
      next => exact ih h

/-! ## The account of a pair -/

/-- The sockets of a relay that has been made are its own. -/
theorem Holds.opened {rs : List Relay} {text : Text} (hh : Holds others targets s.host rs)
    (ho : Opened text r s s') : Holds others targets s'.host (r :: rs) := by
  have hc : r.closed = false := by rw [ho.made]; rfl
  refine ⟨?_, ?_, List.forall_mem_cons.mpr ⟨ho.unzoned, hh.unzoned⟩⟩
  · rw [openOnes_cons_of_open hc, ho.site]
    exact (hh.bound.cons _).trans List.perm_middle.symm
  · rw [openOnes_cons_of_open hc, ho.site]
    exact (hh.outbound.cons _).trans List.perm_middle.symm

/-- A relay that is closed does not count. -/
theorem Holds.tail {h : Host} (hh : Holds others targets h (r :: rest)) (hc : r.closed = true) :
    Holds others targets h rest := by
  obtain ⟨hbound, houtbound, hunzoned⟩ := hh
  rw [openOnes_cons_of_closed hc] at hbound houtbound
  exact ⟨hbound, houtbound, (List.forall_mem_cons.mp hunzoned).2⟩

/-- The sockets of two relays that have been made, whatever has become of them since. -/
theorem Holds.evolve_pair {rs : List Relay} {r₁ r₁' r₂ r₂' : Relay}
    (hh : Holds others targets s.host (r₁ :: r₂ :: rs))
    (h₁ : Evolves p r₁ s r₁' s') (h₂ : Evolves p r₂ s' r₂' s'') :
    Holds others targets s''.host (r₁' :: r₂' :: rs) :=
  ((hh.evolve h₁).perm (.swap ..) |>.evolve h₂).perm (.swap ..)

/-- An address that is free is not one that an open relay has. -/
theorem Holds.not_collides {rs : List Relay} {h : Host} {a : SocketAddress}
    (hh : Holds others targets h rs) (hfree : h.isFree a = true) (hr : r ∈ rs)
    (hc : r.closed = false) :
    a.collides r.inbound = false := by
  have hmem : r.inbound ∈ h.bound := by
    refine hh.bound.mem_iff.mpr (List.mem_append_right _ (List.mem_map_of_mem ?_))
    simpa [openOnes, hc] using hr
  simpa using List.all_eq_true.mp hfree _ hmem

end Relay

end MediaProxy
