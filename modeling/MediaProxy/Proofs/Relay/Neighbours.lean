import MediaProxy.Proofs.Relay.Lifetime
import MediaProxy.Rtsp.Transport

/-!
# Neighbouring relays

A media server is told to deliver to the port of the first relay of a pair and to its successor, so
the second relay must receive on just that port: the two must be **neighbours**
(`Pair.Neighbours`). An allocation asks for neighbouring ports, and a port that is asked for by its
number is the one that is bound (`Host.bind_port`). But port zero asks for any port: a range that
begins at zero is searched from zero, and a pair that is found there has its first relay on a port
that the host has chosen and its second one on port one. All other pairs are neighbours
(`neighbours_iff`).

What is NOT decided here. Which port the host chooses is left to it; all that counts is that it
never chooses zero.
-/

namespace MediaProxy

namespace Host

variable {h h' : Host} {a a' : SocketAddress}

/-- A port that is asked for **by its number** is the port that is bound. -/
theorem bind_port (hb : h.bind a = .ok (a', h')) (hport : a.port ≠ 0) : a'.port = a.port := by
  unfold bind at hb
  rw [if_neg hport] at hb
  split at hb
  · cases hb
  split at hb
  · cases hb
  obtain ⟨rfl, -, -⟩ := bindExactly_ok hb
  rfl

/-- An address that was bound has a port. -/
theorem bind_port_ne_zero (hb : h.bind a = .ok (a', h')) : a'.port ≠ 0 := by
  by_cases hport : a.port = 0
  · unfold bind at hb
    rw [if_pos hport] at hb
    split at hb
    · cases hb
    split at hb
    next port hfound =>
      obtain ⟨rfl, -, -⟩ := bindExactly_ok hb
      exact freePort?_ne_zero hfound
    next => cases hb
  · rw [bind_port hb hport]
    exact hport

end Host

namespace Relay

/-- The relays of a pair are **neighbours**: the second receives on the port after the first one's.
-/
def Pair.Neighbours (p : Pair) : Prop :=
  p.rtcp.inbound.port.toNat = p.rtp.inbound.port.toNat + 1

instance (p : Pair) : Decidable p.Neighbours := inferInstanceAs (Decidable (_ = _))

/-- The ports where the relays of a pair receive, as a media server is told of them. -/
def Pair.transport (p : Pair) : Rtsp.Transport := ⟨p.rtp.inbound.port, p.rtcp.inbound.port, none⟩

variable {host first second inbound target : Text} {lowest highest port : UInt16} {s s' : Site}
  {r : Relay} {pair : Pair}

/-! ## The port of one relay -/

/-- A relay is opened at the port that was asked for, if one was. -/
theorem port_of_tryOpen (h : tryOpen (joinHostPort host port) target s = (.ok r, s'))
    (hport : port ≠ 0) : r.inbound.port = port := by
  obtain ⟨a, _, ha, hbind⟩ := bind_of_tryOpen h
  obtain ⟨-, rfl⟩ := resolve_joinHostPort ha
  exact Host.bind_port hbind hport

/-- A relay that was opened has a port. -/
theorem port_ne_zero_of_tryOpen (h : tryOpen inbound target s = (.ok r, s')) :
    r.inbound.port ≠ 0 := by
  obtain ⟨a, _, -, hbind⟩ := bind_of_tryOpen h
  exact Host.bind_port_ne_zero hbind

/-! ## The ports of a pair -/

/-- No pair begins below the range, or at a port that has no successor. -/
theorem candidate_bounds (h : port ∈ candidates lowest highest) :
    lowest.toNat ≤ port.toNat ∧ port.toNat ≤ lastFirstPort := by
  obtain ⟨k, hk, rfl⟩ := List.mem_map.mp h
  rw [List.mem_range] at hk
  have hlast : min highest.toNat lastFirstPort ≤ 65534 := Nat.min_le_right ..
  have hsmall : lowest.toNat + 2 * k < 2 ^ 16 := by omega
  rw [UInt16.toNat_ofNat_of_lt' hsmall, lastFirstPort]
  omega

/-- The successor of a port that has one is one more. -/
theorem succ_toNat (h : port.toNat ≤ lastFirstPort) : (port + 1).toNat = port.toNat + 1 := by
  rw [lastFirstPort] at h
  have hone : (1 : UInt16).toNat = 1 := rfl
  rw [UInt16.toNat_add, hone]
  exact Nat.mod_eq_of_lt (by omega)

/-- A pair that an allocation makes is **found at a port**: its second relay is on the successor,
and its first one on the port itself unless that is zero. -/
structure Pair.FoundAt (p : Pair) (port : UInt16) : Prop where
  second : p.rtcp.inbound.port.toNat = port.toNat + 1
  first : port ≠ 0 → p.rtp.inbound.port = port
  chosen : p.rtp.inbound.port ≠ 0

/-- A pair that was allocated was found at a port of the range. -/
theorem foundAt_of_allocatePair
    (h : allocatePair host first second lowest highest s = .ok (pair, s')) :
    ∃ port, lowest.toNat ≤ port.toNat ∧ pair.FoundAt port := by
  unfold allocatePair outcome at h
  split at h
  next hsearch =>
    cases h
    obtain ⟨port, hmem, hpair⟩ := tryPair_of_search hsearch
    obtain ⟨s₁, hrtp, hrtcp⟩ := tryOpen_of_tryPair hpair
    obtain ⟨hlowest, hlast⟩ := candidate_bounds hmem
    have hsucc := succ_toNat hlast
    have hne : port + 1 ≠ 0 := by
      intro hzero
      rw [hzero] at hsucc
      exact absurd hsucc (Nat.succ_ne_zero _).symm
    refine ⟨port, hlowest, ?_, port_of_tryOpen hrtp, port_ne_zero_of_tryOpen hrtp⟩
    rw [port_of_tryOpen hrtcp hne, hsucc]
  next => cases h

/-- Relays that were found at a port are neighbours unless that port is zero. -/
theorem Pair.FoundAt.neighbours_iff_ne_zero (h : pair.FoundAt port) :
    pair.Neighbours ↔ port ≠ 0 := by
  constructor
  · rintro hnext rfl
    have hsecond := h.second
    rw [hnext, UInt16.toNat_zero, Nat.add_right_cancel_iff] at hsecond
    exact h.chosen (UInt16.toNat_inj.mp hsecond)
  · intro hport
    rw [Pair.Neighbours, h.second, h.first hport]

/-- What a media server is told is where the relays receive, if they are neighbours and only then:
the successor of the last port is zero, and nothing is bound there. -/
theorem Pair.FoundAt.transport_iff (h : pair.FoundAt port) :
    Rtsp.Transport.unicast pair.rtp.inbound.port = pair.transport ↔ pair.Neighbours := by
  have hrtcp : pair.rtcp.inbound.port.toNat ≠ 0 := h.second ▸ Nat.succ_ne_zero _
  have hone : (1 : UInt16).toNat = 1 := rfl
  have hfirst := pair.rtp.inbound.port.toNat_lt
  have hsecond := pair.rtcp.inbound.port.toNat_lt
  simp only [Rtsp.Transport.unicast, Pair.transport, Rtsp.Transport.mk.injEq, true_and, and_true,
    Pair.Neighbours, ← UInt16.toNat_inj, UInt16.toNat_add, hone]
  omega

/-- **An allocation makes neighbours except at port zero.** For every host, relay host, pair of
targets and range of ports, whatever sockets are held: the relays of a pair that is allocated are
neighbours unless the range begins at zero and the second relay is on port one, and the ports that a
media server is told are those where the two relays receive exactly if the relays are neighbours. -/
theorem neighbours_iff (h : allocatePair host first second lowest highest s = .ok (pair, s')) :
    (pair.Neighbours ↔ ¬(lowest = 0 ∧ pair.rtcp.inbound.port = 1)) ∧
      (Rtsp.Transport.unicast pair.rtp.inbound.port = pair.transport ↔ pair.Neighbours) := by
  obtain ⟨port, hlowest, hfound⟩ := foundAt_of_allocatePair h
  refine ⟨hfound.neighbours_iff_ne_zero.trans (not_congr ?_), hfound.transport_iff⟩
  have hone : (1 : UInt16).toNat = 1 := rfl
  have hsecond := hfound.second
  rw [← UInt16.toNat_inj, ← UInt16.toNat_inj, ← UInt16.toNat_inj, UInt16.toNat_zero, hone]
  omega

/-! Allocations for a client on port 6000 of a host that is idle. -/

/-- Two relays on ports of the loopback address. -/
def loopbackPair (rtp rtcp : UInt16) : Pair :=
  ⟨made ⟨.v4 127 0 0 1, rtp, 0⟩ ⟨.v4 127 0 0 1, 6000, 0⟩,
    made ⟨.v4 127 0 0 1, rtcp, 0⟩ ⟨.v4 127 0 0 1, 6001, 0⟩⟩

/-- Where they are all that there is. -/
def loopbackSite (rtp rtcp : UInt16) : Site :=
  (loopbackPair rtp rtcp).rtcp.withSockets
    ((loopbackPair rtp rtcp).rtp.withSockets ⟨.idle, .empty⟩)

theorem neighbours_of_usual_range :
    allocatePair "127.0.0.1".toList "127.0.0.1:6000".toList "127.0.0.1:6001".toList 20000 50000
        ⟨.idle, .empty⟩ = .ok (loopbackPair 20000 20001, loopbackSite 20000 20001) ∧
      (loopbackPair 20000 20001).Neighbours := by
  have hmade : allocatePair "127.0.0.1".toList "127.0.0.1:6000".toList "127.0.0.1:6001".toList
      20000 50000 ⟨.idle, .empty⟩ = .ok (loopbackPair 20000 20001, loopbackSite 20000 20001) := by
    decide +kernel
  exact ⟨hmade, (neighbours_iff hmade).1.mpr (by decide)⟩

/-- In a range that begins at zero the relays are far apart, and the media server is told of a port
where nobody receives. -/
theorem strangers_of_range_from_zero :
    allocatePair "127.0.0.1".toList "127.0.0.1:6000".toList "127.0.0.1:6001".toList 0 50000
        ⟨.idle, .empty⟩ = .ok (loopbackPair 32768 1, loopbackSite 32768 1) ∧
      ¬(loopbackPair 32768 1).Neighbours ∧
      Rtsp.Transport.unicast (loopbackPair 32768 1).rtp.inbound.port ≠
        (loopbackPair 32768 1).transport := by
  refine ⟨?_, by decide, by decide⟩
  decide +kernel

end Relay

end MediaProxy
