import MediaProxy.Proofs.Relay.Neighbours

/-!
# The first pair that can be had

What a search comes to is settled by the two targets and by which ports of the host are free. The
targets say how the search will end and how many neighbouring ports have to be had before that shows
(`Outlook`): none if the first target does not resolve, one if it cannot be connected to or the
second one does not resolve, both ports otherwise. The search ends in that way at the first port of
its range from which so many ports can be bound, and for want of ports if there is none
(`search_finds_first`). Nothing is held afterwards but the sockets of a pair that was found.

The outbound sockets of a host take none of its ports here (`Host.connect`), so the second relay of
a pair finds the ports as the first one did.
-/

namespace MediaProxy

/-! ## What can be bound -/

namespace Host

variable {h h' : Host} {a b : SocketAddress} {fault : Fault}

/-- Whether an address **can be bound**. -/
def CanBind (h : Host) (a : SocketAddress) : Prop := ∃ bound, h.bind a = .ok bound

instance (h : Host) (a : SocketAddress) : Decidable (h.CanBind a) :=
  match hb : h.bind a with
  | .ok bound => .isTrue ⟨bound, hb⟩
  | .error _ => .isFalse fun ⟨_, hok⟩ => nomatch hb.symm.trans hok

/-- A port can be bound exactly if the address is the host's own, the program is allowed to, and
nobody has it. -/
theorem canBind_iff (hport : a.port ≠ 0) :
    h.CanBind a ↔
      h.owns a.ip = true ∧ ¬a.port < h.allowance.lowest ∧ h.isFree a.unzoned = true := by
  unfold CanBind bind bindExactly
  by_cases hlow : a.port < h.allowance.lowest <;> cases h.owns a.ip <;>
    cases h.isFree a.unzoned <;> simp [hport, hlow]

/-- What can be bound is bound without its zone. -/
theorem bind_of_canBind (hport : a.port ≠ 0) (hc : h.CanBind a) :
    h.bind a = .ok (a.unzoned, { h with bound := a.unzoned :: h.bound }) := by
  obtain ⟨howns, hhigh, hfree⟩ := (canBind_iff hport).mp hc
  simp [bind, bindExactly, howns, hport, hhigh, hfree]

/-- What a host refuses to bind, it refuses for a reason of its own. -/
theorem bind_error (hb : h.bind a = .error fault) : ∃ reason, fault = .io reason := by
  unfold bind bindExactly at hb
  split at hb
  · exact ⟨_, (Except.error.inj hb).symm⟩
  split at hb
  · split at hb
    · split at hb
      · cases hb
      · exact ⟨_, (Except.error.inj hb).symm⟩
    · exact ⟨_, (Except.error.inj hb).symm⟩
  split at hb
  · exact ⟨_, (Except.error.inj hb).symm⟩
  · split at hb
    · cases hb
    · exact ⟨_, (Except.error.inj hb).symm⟩

/-- What cannot be bound is refused with a reason of the host's. -/
theorem bind_of_not_canBind (hc : ¬h.CanBind a) : ∃ reason, h.bind a = .error (.io reason) := by
  cases hb : h.bind a with
  | ok bound => exact absurd ⟨bound, hb⟩ hc
  | error fault =>
    obtain ⟨reason, rfl⟩ := bind_error hb
    exact ⟨reason, rfl⟩

/-- A zone makes no difference to what can be bound. -/
theorem canBind_zone {ip : IpAddress} {port : UInt16} (zone : UInt32) (hport : port ≠ 0) :
    h.CanBind ⟨ip, port, zone⟩ ↔ h.CanBind ⟨ip, port, 0⟩ := by
  rw [canBind_iff hport, canBind_iff hport]
  rfl

/-- A socket takes nothing from other ports. -/
theorem canBind_cons (outbound : List SocketAddress) (hport : a.port ≠ 0) (hother : b.port ≠ a.port) :
    Host.CanBind { h with bound := b :: h.bound, outbound := outbound } a ↔ h.CanBind a := by
  have happart : a.unzoned.collides b = false := by
    simp [SocketAddress.collides, SocketAddress.unzoned, hother.symm]
  rw [canBind_iff hport, canBind_iff hport, isFree, isFree, List.all_cons, happart]
  rfl

/-! Whether a target can be connected to does not depend on the sockets of a host. -/

/-- What a host refuses to connect to it refuses whatever its sockets. -/
theorem connect_of_error (hc : h.connect a = .error fault) (host : Host) : host.connect a = .error fault := by
  unfold connect at hc ⊢
  split at hc
  next hforbidden => rw [if_pos hforbidden, hc]
  next => cases hc

/-- What a host connects to it does whatever its sockets. -/
theorem connect_of_ok (hc : h.connect a = .ok h') (host : Host) :
    host.connect a = .ok { host with outbound := a :: host.outbound } := by
  unfold connect at hc ⊢
  split at hc
  next => cases hc
  next hallowed => rw [if_neg hallowed]

/-- The ports from one on, so many of them, can be bound on an IP address. -/
def CanBindFrom (h : Host) (ip : IpAddress) (port : UInt16) (n : Nat) : Prop :=
  ∀ i < n, h.CanBind ⟨ip, port + UInt16.ofNat i, 0⟩

instance (h : Host) (ip : IpAddress) (port : UInt16) (n : Nat) : Decidable (h.CanBindFrom ip port n) :=
  Nat.decidableBallLT n _

theorem canBindFrom_zero (h : Host) (ip : IpAddress) (port : UInt16) : h.CanBindFrom ip port 0 :=
  fun _ hi => absurd hi (Nat.not_lt_zero _)

/-- One more port can be bound exactly if the ones before and itself can. -/
theorem canBindFrom_succ {ip : IpAddress} {port : UInt16} {n : Nat} :
    h.CanBindFrom ip port (n + 1) ↔ h.CanBindFrom ip port n ∧ h.CanBind ⟨ip, port + UInt16.ofNat n, 0⟩ :=
  Nat.forall_lt_succ_right

theorem canBindFrom_one {ip : IpAddress} {port : UInt16} :
    h.CanBindFrom ip port 1 ↔ h.CanBind ⟨ip, port, 0⟩ := by
  have hsame : port + UInt16.ofNat 0 = port := UInt16.add_zero port
  rw [canBindFrom_succ, hsame]
  exact and_iff_right (canBindFrom_zero h ip port)

theorem canBindFrom_two {ip : IpAddress} {port : UInt16} :
    h.CanBindFrom ip port 2 ↔ h.CanBind ⟨ip, port, 0⟩ ∧ h.CanBind ⟨ip, port + 1, 0⟩ := by
  rw [canBindFrom_succ, canBindFrom_one]
  rfl

end Host

/-- A host whose address resolves for one port resolves for every port, to the same address. -/
theorem resolve_of_locate {host : Text} {ip : IpAddress} {zone : UInt32} (h : locate host = .ok (ip, zone))
    (port : UInt16) : resolve (joinHostPort host port) = .ok ⟨ip, port, zone⟩ := by
  rw [resolve, lookup_joinHostPort, h]
  rfl

namespace Relay

variable {host first second inbound target : Text} {lowest highest port : UInt16} {s s' : Site}
  {here a b : SocketAddress} {ip : IpAddress} {zone : UInt32} {fault : Fault} {n : Nat}
  {verdict : Except Fault (SocketAddress × SocketAddress)}

/-! ## One relay -/

/-- A host **refuses** a target, whatever its sockets, with a fault. -/
def Refuses (a : SocketAddress) (fault : Fault) : Prop := ∀ h : Host, h.connect a = .error fault

/-- A target that a relay can be **aimed** at: it resolves, and can be connected to. -/
def Aims (target : Text) (a : SocketAddress) : Prop :=
  resolve target = .ok a ∧ ∀ h : Host, h.connect a = .ok { h with outbound := a :: h.outbound }

/-- A relay is not opened to a target that does not resolve. -/
theorem tryOpen_unresolved (hhere : resolve inbound = .ok here) (htarget : resolve target = .error fault) :
    tryOpen inbound target s = (.error fault, s) := by
  simp only [tryOpen, hhere, htarget]

/-- A relay is not opened at an address that cannot be bound. -/
theorem tryOpen_busy (hhere : resolve inbound = .ok here) (htarget : resolve target = .ok a)
    (hbusy : ¬s.host.CanBind here) : ∃ reason, tryOpen inbound target s = (.error (.io reason), s) := by
  obtain ⟨reason, hbind⟩ := Host.bind_of_not_canBind hbusy
  exact ⟨reason, by simp only [tryOpen, hhere, htarget, hbind]⟩

/-- A relay is not opened to a target that the host refuses, and its own socket is given back. -/
theorem tryOpen_refused (hhere : resolve inbound = .ok here) (htarget : resolve target = .ok a)
    (hrefuses : Refuses a fault) (hport : here.port ≠ 0)
    (hfree : s.host.CanBind here) : tryOpen inbound target s = (.error fault, s) := by
  have hbind := Host.bind_of_canBind hport hfree
  have hconnect := hrefuses { s.host with bound := here.unzoned :: s.host.bound }
  have hopen : tryOpen inbound target s = (.error fault, (tryOpen inbound target s).2) := by
    simp only [tryOpen, hhere, htarget, hbind, hconnect]
  rw [hopen, tryOpen_error hopen]

/-- A relay is opened to a target that it can be aimed at, where its address can be bound. -/
theorem tryOpen_aimed (hhere : resolve inbound = .ok here) (haims : Aims target a) (hport : here.port ≠ 0)
    (hfree : s.host.CanBind here) :
    tryOpen inbound target s = (.ok (made here.unzoned a), (made here.unzoned a).withSockets s) := by
  have hbind := Host.bind_of_canBind hport hfree
  simp only [tryOpen, hhere, haims.1, hbind, haims.2]
  rfl

/-! ## One pair -/

/-- How a search ends once enough ports are had, and **how many neighbouring ports** it takes until
that shows. An address that does not resolve shows before its relay asks for a port, and one that
cannot be connected to only after. -/
inductive Outlook (first second : Text) : Nat → Except Fault (SocketAddress × SocketAddress) → Prop
  | firstUnresolved {fault : Fault} (unresolved : resolve first = .error fault) :
    Outlook first second 0 (.error fault)
  | firstRefused {a : SocketAddress} {fault : Fault} (resolved : resolve first = .ok a)
    (refused : Refuses a fault) : Outlook first second 1 (.error fault)
  | secondUnresolved {a : SocketAddress} {fault : Fault} (aims : Aims first a)
    (unresolved : resolve second = .error fault) : Outlook first second 1 (.error fault)
  | secondRefused {a b : SocketAddress} {fault : Fault} (aims : Aims first a)
    (resolved : resolve second = .ok b) (refused : Refuses b fault) :
    Outlook first second 2 (.error fault)
  | served {a b : SocketAddress} (aims : Aims first a) (aimsToo : Aims second b) :
    Outlook first second 2 (.ok (a, b))

/-- Every two targets have an outlook. -/
theorem exists_outlook (first second : Text) : ∃ n verdict, Outlook first second n verdict := by
  have hconnects (a : SocketAddress) :
      (∃ fault, Refuses a fault) ∨ ∀ h : Host, h.connect a = .ok { h with outbound := a :: h.outbound } := by
    cases hc : Host.idle.connect a with
    | error fault => exact .inl ⟨fault, Host.connect_of_error hc⟩
    | ok h' => exact .inr (Host.connect_of_ok hc)
  cases hfirst : resolve first with
  | error fault => exact ⟨_, _, .firstUnresolved hfirst⟩
  | ok a =>
    rcases hconnects a with ⟨fault, hrefuses⟩ | haims
    · exact ⟨_, _, .firstRefused hfirst hrefuses⟩
    cases hsecond : resolve second with
    | error fault => exact ⟨_, _, .secondUnresolved ⟨hfirst, haims⟩ hsecond⟩
    | ok b =>
      rcases hconnects b with ⟨fault, hrefuses⟩ | haimsToo
      · exact ⟨_, _, .secondRefused ⟨hfirst, haims⟩ hsecond hrefuses⟩
      · exact ⟨_, _, .served ⟨hfirst, haims⟩ ⟨hsecond, haimsToo⟩⟩

/-- A fault that lies in a target ends a search. -/
theorem Outlook.isFinal (ho : Outlook first second n (.error fault)) : isFinal fault = true := by
  have hunresolved {target : Text} (hr : resolve target = .error fault) : Relay.isFinal fault = true := by
    rw [resolve] at hr
    cases hl : lookup target with
    | error reason =>
      rw [hl] at hr
      cases hr
      rfl
    | ok found =>
      rw [hl] at hr
      cases hr
  have hrefused {a : SocketAddress} (hr : Refuses a fault) : Relay.isFinal fault = true := by
    have hconnect := hr .idle
    unfold Host.connect at hconnect
    split at hconnect <;> cases hconnect
    rfl
  cases ho with
  | firstUnresolved hr => exact hunresolved hr
  | firstRefused _ hr => exact hrefused hr
  | secondUnresolved _ hr => exact hunresolved hr
  | secondRefused _ _ hr => exact hrefused hr

/-- The pair at a port of an address, between two targets. -/
def pairAt (ip : IpAddress) (port : UInt16) (a b : SocketAddress) : Pair :=
  ⟨made ⟨ip, port, 0⟩ a, made ⟨ip, port + 1, 0⟩ b⟩

/-- How a search ends that is **settled at a port**: with the sockets of the pair there, or as it
began. -/
def settle (ip : IpAddress) (port : UInt16) (s : Site) :
    Except Fault (SocketAddress × SocketAddress) → Except Fault Pair × Site
  | .ok (a, b) =>
    let pair := pairAt ip port a b
    (.ok pair, pair.rtcp.withSockets (pair.rtp.withSockets s))
  | .error fault => (.error fault, s)

/-- A pair is not opened if its first relay is not. -/
theorem tryPair_of_first_error (h : tryOpen (joinHostPort host port) first s = (.error fault, s)) :
    tryPair host first second port s = (.error fault, s) := by
  simp only [tryPair, h]

/-- A pair that lacks its second relay leaves nothing behind. -/
theorem tryPair_of_second_error {s₁ : Site} {rtp : Relay}
    (hfirst : tryOpen (joinHostPort host port) first s = (.ok rtp, s₁))
    (hsecond : tryOpen (joinHostPort host (port + 1)) second s₁ = (.error fault, s')) :
    tryPair host first second port s = (.error fault, s) := by
  have hpair : tryPair host first second port s = (.error fault, (tryPair host first second port s).2) := by
    simp only [tryPair, hfirst, hsecond]
  rw [hpair, tryPair_error hpair]

section Settling

variable (hhost : locate host = .ok (ip, zone)) (hport : port ≠ 0)

include hhost hport

/-- The first relay of a pair, where its port is free. -/
theorem tryOpen_first (haims : Aims first a) (hfree : s.host.CanBind ⟨ip, port, 0⟩) :
    tryOpen (joinHostPort host port) first s =
      (.ok (made ⟨ip, port, 0⟩ a), (made ⟨ip, port, 0⟩ a).withSockets s) :=
  tryOpen_aimed (resolve_of_locate hhost port) haims hport ((Host.canBind_zone zone hport).mpr hfree)

omit hhost hport in
/-- The second relay of a pair finds its port as it was before the first one was made. -/
theorem canBind_second (s : Site) (ip : IpAddress) (zone : UInt32) (hlast : port.toNat ≤ lastFirstPort)
    (a : SocketAddress) :
    port + 1 ≠ 0 ∧ (((made ⟨ip, port, 0⟩ a).withSockets s).host.CanBind ⟨ip, port + 1, zone⟩ ↔
      s.host.CanBind ⟨ip, port + 1, 0⟩) := by
  have hsucc := succ_toNat hlast
  have hne : port + 1 ≠ 0 := by
    intro hzero
    rw [hzero] at hsucc
    exact absurd hsucc (Nat.succ_ne_zero _).symm
  have hother : port ≠ port + 1 := by
    intro hsame
    rw [← hsame] at hsucc
    exact absurd hsucc (Nat.succ_ne_self _).symm
  rw [Host.canBind_zone zone hne]
  exact ⟨hne, Host.canBind_cons _ hne hother⟩

/-- **With enough ports**, an attempt at a pair ends as it has to. -/
theorem tryPair_settles (hlast : port.toNat ≤ lastFirstPort) (ho : Outlook first second n verdict)
    (hhad : s.host.CanBindFrom ip port n) :
    tryPair host first second port s = settle ip port s verdict := by
  have hhere := resolve_of_locate hhost port
  have hnext := resolve_of_locate hhost (port + 1)
  cases ho with
  | firstUnresolved hfirst => exact tryPair_of_first_error (tryOpen_unresolved hhere hfirst)
  | firstRefused hfirst hrefuses =>
    rw [Host.canBindFrom_one, ← Host.canBind_zone zone hport] at hhad
    exact tryPair_of_first_error (tryOpen_refused hhere hfirst hrefuses hport hhad)
  | secondUnresolved haims hsecond =>
    rw [Host.canBindFrom_one] at hhad
    exact tryPair_of_second_error (tryOpen_first hhost hport haims hhad) (tryOpen_unresolved hnext hsecond)
  | @secondRefused a b fault haims hsecond hrefuses =>
    obtain ⟨hfree, hfreeNext⟩ := Host.canBindFrom_two.mp hhad
    obtain ⟨hne, hsame⟩ := canBind_second s ip zone hlast a
    exact tryPair_of_second_error (tryOpen_first hhost hport haims hfree)
      (tryOpen_refused hnext hsecond hrefuses hne (hsame.mpr hfreeNext))
  | @served a b haims haimsToo =>
    obtain ⟨hfree, hfreeNext⟩ := Host.canBindFrom_two.mp hhad
    obtain ⟨hne, hsame⟩ := canBind_second s ip zone hlast a
    have hfirst := tryOpen_first hhost hport haims hfree
    have hsecond := tryOpen_aimed hnext haimsToo hne (hsame.mpr hfreeNext)
    simp only [tryPair, hfirst, hsecond]
    rfl

/-- **Without enough ports**, it fails for a reason that another port can mend. -/
theorem tryPair_lacks (hlast : port.toNat ≤ lastFirstPort) (ho : Outlook first second n verdict)
    (hlacks : ¬s.host.CanBindFrom ip port n) :
    ∃ reason, tryPair host first second port s = (.error (.io reason), s) := by
  have hhere := resolve_of_locate hhost port
  have hnext := resolve_of_locate hhost (port + 1)
  have hfirstBusy {a : SocketAddress} (hfirst : resolve first = .ok a)
      (hbusy : ¬s.host.CanBind ⟨ip, port, 0⟩) :
      ∃ reason, tryPair host first second port s = (.error (.io reason), s) := by
    rw [← Host.canBind_zone zone hport] at hbusy
    obtain ⟨reason, hopen⟩ := tryOpen_busy hhere hfirst hbusy
    exact ⟨reason, tryPair_of_first_error hopen⟩
  have hsecondBusy {a b : SocketAddress} (haims : Aims first a) (hsecond : resolve second = .ok b)
      (hbusy : ¬(s.host.CanBind ⟨ip, port, 0⟩ ∧ s.host.CanBind ⟨ip, port + 1, 0⟩)) :
      ∃ reason, tryPair host first second port s = (.error (.io reason), s) := by
    by_cases hfree : s.host.CanBind ⟨ip, port, 0⟩
    · obtain ⟨-, hsame⟩ := canBind_second s ip zone hlast a
      obtain ⟨reason, hopen⟩ := tryOpen_busy hnext hsecond (hsame.not.mpr fun hnextFree => hbusy ⟨hfree, hnextFree⟩)
      exact ⟨reason, tryPair_of_second_error (tryOpen_first hhost hport haims hfree) hopen⟩
    · exact hfirstBusy haims.1 hfree
  cases ho with
  | firstUnresolved => exact absurd (Host.canBindFrom_zero _ _ _) hlacks
  | firstRefused hfirst => exact hfirstBusy hfirst (Host.canBindFrom_one.not.mp hlacks)
  | secondUnresolved haims => exact hfirstBusy haims.1 (Host.canBindFrom_one.not.mp hlacks)
  | secondRefused haims hsecond => exact hsecondBusy haims hsecond (Host.canBindFrom_two.not.mp hlacks)
  | served haims haimsToo => exact hsecondBusy haims haimsToo.1 (Host.canBindFrom_two.not.mp hlacks)

end Settling

/-! ## All pairs of a range -/

/-- A port that a pair of a range **can begin at**: every other port from the lowest on, as long as
the range lasts and there is a successor. -/
def CanBegin (lowest highest port : UInt16) : Prop :=
  ∃ k, port.toNat = lowest.toNat + 2 * k ∧ port.toNat ≤ min highest.toNat lastFirstPort

/-- The **first** port of a range that a pair can begin at and that something holds of. -/
structure IsFirst (P : UInt16 → Prop) (lowest highest port : UInt16) : Prop where
  begins : CanBegin lowest highest port
  holds : P port
  least : ∀ other, CanBegin lowest highest other → P other → port ≤ other

/-- A port is tried exactly if a pair of the range can begin at it. -/
theorem mem_candidates_iff : port ∈ candidates lowest highest ↔ CanBegin lowest highest port := by
  have hlast : min highest.toNat lastFirstPort ≤ 65534 := Nat.min_le_right ..
  simp only [candidates, List.mem_map, List.mem_range]
  constructor
  · rintro ⟨k, hk, rfl⟩
    have hsmall : lowest.toNat + 2 * k < 2 ^ 16 := by omega
    refine ⟨k, UInt16.toNat_ofNat_of_lt' hsmall, ?_⟩
    rw [UInt16.toNat_ofNat_of_lt' hsmall]
    omega
  · rintro ⟨k, hport, hle⟩
    exact ⟨k, by omega, by rw [← hport, UInt16.ofNat_toNat]⟩

/-- Ports are tried in ascending order. -/
theorem candidates_ascend (lowest highest : UInt16) : (candidates lowest highest).Pairwise (· < ·) := by
  have hlast : min highest.toNat lastFirstPort ≤ 65534 := Nat.min_le_right ..
  refine List.pairwise_map.mpr (List.pairwise_lt_range.imp_of_mem ?_)
  intro k k' hk hk' hlt
  rw [List.mem_range] at hk hk'
  have hsmall : lowest.toNat + 2 * k < 2 ^ 16 := by omega
  have hsmall' : lowest.toNat + 2 * k' < 2 ^ 16 := by omega
  rw [UInt16.lt_iff_toNat_lt, UInt16.toNat_ofNat_of_lt' hsmall, UInt16.toNat_ofNat_of_lt' hsmall']
  omega

/-- What holds of some port holds of a first one. -/
theorem exists_isFirst {P : UInt16 → Prop} (hbegins : CanBegin lowest highest port) (hholds : P port) :
    ∃ port, IsFirst P lowest highest port := by
  induction hn : port.toNat using Nat.strongRecOn generalizing port with
  | ind n ih =>
    by_cases hleast : ∀ other, CanBegin lowest highest other → P other → port ≤ other
    · exact ⟨port, hbegins, hholds, hleast⟩
    · simp only [not_forall, UInt16.not_le] at hleast
      obtain ⟨other, hother, hP, hlt⟩ := hleast
      exact ih other.toNat (hn ▸ UInt16.lt_iff_toNat_lt.mp hlt) hother hP rfl

/-- Ports that fail for a reason that another port can mend are passed over. -/
theorem tryFirst_append (exhausted : Fault) {busy : List UInt16} (rest : List UInt16)
    (hbusy : ∀ port ∈ busy, ∃ reason, tryPair host first second port s = (.error (.io reason), s)) :
    tryFirst host first second exhausted (busy ++ rest) s = tryFirst host first second exhausted rest s := by
  induction busy with
  | nil => rfl
  | cons port busy ih =>
    obtain ⟨⟨reason, hpair⟩, hbusy⟩ := List.forall_mem_cons.mp hbusy
    rw [List.cons_append, tryFirst, hpair]
    exact ih hbusy

/-- A port where the search is settled ends it. -/
theorem tryFirst_of_settles {exhausted : Fault} (rest : List UInt16) (ho : Outlook first second n verdict)
    (hsettles : tryPair host first second port s = settle ip port s verdict) :
    tryFirst host first second exhausted (port :: rest) s = settle ip port s verdict := by
  rw [tryFirst, hsettles]
  cases verdict with
  | error fault => simp only [settle, ho.isFinal, if_true]
  | ok targets => rfl

section Range

variable (hlowest : lowest ≠ 0) (hhost : locate host = .ok (ip, zone))
  (ho : Outlook first second n verdict)

include hlowest

/-- A port that a pair can begin at is a port, and has a successor. -/
theorem CanBegin.bounds (h : CanBegin lowest highest port) : port ≠ 0 ∧ port.toNat ≤ lastFirstPort := by
  obtain ⟨k, hport, hle⟩ := h
  refine ⟨?_, Nat.le_trans hle (Nat.min_le_right ..)⟩
  rintro rfl
  exact hlowest (UInt16.toNat_inj.mp (by rw [UInt16.toNat_zero] at hport ⊢; omega))

include hhost ho

/-- A search **is settled at the first port** from which enough ports can be bound. -/
theorem search_settles (hfirst : IsFirst (s.host.CanBindFrom ip · n) lowest highest port) :
    search host first second lowest highest s = settle ip port s verdict := by
  obtain ⟨hport, hlast⟩ := hfirst.begins.bounds hlowest
  obtain ⟨before, rest, hsplit⟩ := List.append_of_mem (mem_candidates_iff.mpr hfirst.begins)
  have hbusy : ∀ p ∈ before, ∃ reason, tryPair host first second p s = (.error (.io reason), s) := by
    intro p hp
    have hascend := candidates_ascend lowest highest
    rw [hsplit, List.pairwise_append] at hascend
    have hlt : p < port := hascend.2.2 p hp port List.mem_cons_self
    have hbegins : CanBegin lowest highest p :=
      mem_candidates_iff.mp (hsplit ▸ List.mem_append_left _ hp)
    obtain ⟨hp, hplast⟩ := hbegins.bounds hlowest
    refine tryPair_lacks hhost hp hplast ho fun hhad => ?_
    exact absurd hlt (UInt16.not_lt.mpr (hfirst.least p hbegins hhad))
  rw [search, hsplit, tryFirst_append _ _ hbusy]
  exact tryFirst_of_settles rest ho (tryPair_settles hhost hport hlast ho hfirst.holds)

/-- A search fails **for want of ports** exactly if there is no such port. -/
theorem search_exhausted_iff :
    (search host first second lowest highest s).1 = .error (.portsExhausted lowest highest) ↔
      ∀ port, CanBegin lowest highest port → ¬s.host.CanBindFrom ip port n := by
  constructor
  · intro hexhausted port hbegins hhad
    obtain ⟨found, hfirst⟩ := exists_isFirst (P := (s.host.CanBindFrom ip · n)) hbegins hhad
    rw [search_settles hlowest hhost ho hfirst] at hexhausted
    cases verdict with
    | ok targets => cases hexhausted
    | error fault =>
      have hfinal := ho.isFinal
      rw [Except.error.inj hexhausted] at hfinal
      cases hfinal
  · intro hnone
    have hbusy : ∀ p ∈ candidates lowest highest,
        ∃ reason, tryPair host first second p s = (.error (.io reason), s) := by
      intro p hp
      have hbegins := mem_candidates_iff.mp hp
      obtain ⟨hport, hlast⟩ := hbegins.bounds hlowest
      exact tryPair_lacks hhost hport hlast ho (hnone p hbegins)
    have hall := tryFirst_append (.portsExhausted lowest highest) [] hbusy
    rw [List.append_nil] at hall
    rw [search, hall]
    rfl

end Range

/-- A pair that was found adds the sockets of its two relays to those that are held. -/
theorem site_of_search {pair : Pair} (h : search host first second lowest highest s = (.ok pair, s')) :
    s' = pair.rtcp.withSockets (pair.rtp.withSockets s) := by
  obtain ⟨_, -, s₁, hrtp, hrtcp⟩ := search_ok h
  rw [hrtcp.site, hrtp.site]

/-- **A search finds the first pair that can be had, and leaks nothing.** For every range that does
not begin at zero, every address and two targets, whatever sockets are held. The two targets have an
outlook. If the address resolves, the search ends as they have to at the first port of its range
from which enough ports can be bound: with relays on that port and its successor, or with the fault
of a target and no port tried after. It fails for want of ports exactly if there is no such port. A
search that fails leaves the sockets that are held as they were, for every address, and one that
finds a pair adds those of the pair. -/
theorem search_finds_first (hlowest : lowest ≠ 0) (host first second : Text) (highest : UInt16) (s : Site) :
    (∃ n verdict, Outlook first second n verdict) ∧
    (∀ here n verdict, resolve (joinHostPort host lowest) = .ok here → Outlook first second n verdict →
      (∀ port, IsFirst (s.host.CanBindFrom here.ip · n) lowest highest port →
        search host first second lowest highest s = settle here.ip port s verdict) ∧
      ((search host first second lowest highest s).1 = .error (.portsExhausted lowest highest) ↔
        ∀ port, CanBegin lowest highest port → ¬s.host.CanBindFrom here.ip port n)) ∧
    (∀ fault s', search host first second lowest highest s = (.error fault, s') → s' = s) ∧
    ∀ pair s', search host first second lowest highest s = (.ok pair, s') →
      s' = pair.rtcp.withSockets (pair.rtp.withSockets s) := by
  refine ⟨exists_outlook first second, fun here n verdict hhere ho => ?_, fun _ _ => search_error,
    fun _ _ => site_of_search⟩
  have hhost := (resolve_joinHostPort hhere).1
  exact ⟨fun port => search_settles hlowest hhost ho, search_exhausted_iff hlowest hhost ho⟩

/-- A port of the loopback address. -/
def loopbackAt (port : UInt16) : SocketAddress := ⟨.v4 127 0 0 1, port, 0⟩

/-- Where the second port of the first pair is held, the pair after it is found. -/
theorem search_finds_first_behind_held :
    let s : Site := ⟨⟨[loopbackAt 43301], [], .loopback⟩, .empty⟩
    let pair := pairAt (.v4 127 0 0 1) 43302 (loopbackAt 6000) (loopbackAt 6001)
    search "127.0.0.1".toList "127.0.0.1:6000".toList "127.0.0.1:6001".toList 43300 43310 s =
      (.ok pair, pair.rtcp.withSockets (pair.rtp.withSockets s)) := by
  intro s pair
  have hoffer := (search_finds_first (by decide : (43300 : UInt16) ≠ 0) "127.0.0.1".toList
    "127.0.0.1:6000".toList "127.0.0.1:6001".toList 43310 s).2.1
  refine (hoffer (loopbackAt 43300) 2 (.ok (loopbackAt 6000, loopbackAt 6001)) rfl
    (.served ⟨rfl, fun _ => rfl⟩ ⟨rfl, fun _ => rfl⟩)).1 43302 ⟨⟨1, rfl, by decide⟩, by decide, ?_⟩
  rintro other ⟨k, hother, -⟩ hfree
  rcases Nat.eq_zero_or_pos k with rfl | hk
  · -- At the beginning of the range the successor is held.
    obtain rfl : other = 43300 := UInt16.toNat_inj.mp hother
    exact absurd hfree (by decide)
  · refine UInt16.le_iff_toNat_le.mpr ?_
    have hlowest : (43300 : UInt16).toNat = 43300 := rfl
    have hfound : (43302 : UInt16).toNat = 43302 := rfl
    omega

end Relay

end MediaProxy
