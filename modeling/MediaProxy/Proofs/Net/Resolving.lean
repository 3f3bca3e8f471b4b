import MediaProxy.Net.HostPort
import MediaProxy.Net.Resolve
import MediaProxy.Proofs.Text.Numerals

/-!
# Resolving a host with a port

What `joinHostPort` writes is cut where it was joined, since a numeral holds no colon. So whether
such a text resolves is a matter of the host alone (`locate`), and it resolves to an address of the
host on just the port that was written (`lookup_joinHostPort`). A host that has brackets gets no
others, so two hosts may be written the same; nothing here depends on that.
-/

namespace MediaProxy

/-- A port is read back from its numeral. -/
theorem SocketAddress.readPort?_ofNat (port : UInt16) :
    readPort? (Text.ofNat port.toNat) = some port := by
  simp [readPort?, Text.digitsBelow?_ofNat port.toNat_lt]

/-- A host as it is written before a port. -/
def hostText (host : Text) : Text :=
  if ':' ∈ host ∧ host.head? ≠ some '[' then '[' :: host ++ [']'] else host

/-- Where a host with a port is **located**, whatever the port. -/
def locate (host : Text) : Except Unresolvable (IpAddress × UInt32) :=
  match SocketAddress.readHost? (hostText host) with
  | some found => .ok found
  | none =>
    if '\x00' ∈ hostText host then .error .nulInHost
    else
      match IpAddress.read? (hostText host) with
      | some ip => .ok (ip, 0)
      | none => .error .unknownHost

/-- A host and a port are looked up by looking up the host. -/
theorem lookup_joinHostPort (host : Text) (port : UInt16) :
    lookup (joinHostPort host port) = (locate host).map fun (ip, zone) => { ip, port, zone } := by
  have hcut : Text.cutAtLast ':' (joinHostPort host port) =
      some (hostText host, Text.ofNat port.toNat) :=
    Text.cutAtLast_append (hostText host) (Text.not_mem_ofNat (by decide) _)
  unfold lookup locate
  simp only [SocketAddress.read?, hcut, Option.bind_eq_bind, Option.bind_some,
    SocketAddress.readPort?_ofNat, Text.readUInt16?_ofNat]
  cases SocketAddress.readHost? (hostText host) with
  | some found => rfl
  | none =>
    simp only [Option.bind_none]
    split
    · rfl
    · cases IpAddress.read? (hostText host) <;> rfl

/-- A host and a port that resolve do so to an address of the host, on that port. -/
theorem resolve_joinHostPort {host : Text} {port : UInt16} {a : SocketAddress}
    (h : resolve (joinHostPort host port) = .ok a) :
    locate host = .ok (a.ip, a.zone) ∧ a.port = port := by
  rw [resolve, lookup_joinHostPort] at h
  cases hl : locate host with
  | error reason =>
    rw [hl] at h
    cases h
  | ok found =>
    rw [hl] at h
    cases h
    exact ⟨rfl, rfl⟩

end MediaProxy
