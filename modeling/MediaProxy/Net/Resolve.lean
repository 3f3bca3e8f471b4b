import MediaProxy.Fault
import MediaProxy.Net.Address

/-!
# Resolving addresses

An address in a setting or a request is a host with a port. There is no name service: only a literal
address resolves, and every name fails with the reason that a name service would give. A literal has
all of its parts in their plain form: what some hosts still take for an IPv4 address, such as
`127.1` or `0x7f.0.0.1`, is a name here.

A text that is a socket address as it stands is taken as that. Any other text is cut at its last
colon; what follows must be a numeral of sixteen bits, for which a plus sign is allowed, and what
precedes must be a literal without brackets or zone. So `::1:5` is port 5 of `::1`, and
`[127.0.0.1]:5` does not resolve.
-/

namespace MediaProxy

/-- Why an address does not resolve. -/
inductive Unresolvable where
  /-- There is no colon. -/
  | noPort
  /-- What follows the last colon is no port. -/
  | badPort
  /-- The host holds the character that no host can hold. -/
  | nulInHost
  /-- The host is a name, and no name is known. -/
  | unknownHost
  deriving DecidableEq, Repr

def Unresolvable.message : Unresolvable → Text
  | .noPort => "invalid socket address".toList
  | .badPort => "invalid port value".toList
  | .nulInHost => "file name contained an unexpected NUL byte".toList
  | .unknownHost => "failed to lookup address information: Name or service not known".toList

/-- The socket address of a host and port in one text. -/
def lookup (address : Text) : Except Unresolvable SocketAddress :=
  match SocketAddress.read? address with
  | some found => .ok found
  | none =>
    match Text.cutAtLast ':' address with
    | none => .error .noPort
    | some (host, port) =>
      match Text.readUInt16? port with
      | none => .error .badPort
      | some port =>
        if '\x00' ∈ host then .error .nulInHost
        else
          match IpAddress.read? host with
          | some ip => .ok { ip, port }
          | none => .error .unknownHost

/-- The socket address of a host and port in one text, or the fault that names both. -/
def resolve (address : Text) : Except Fault SocketAddress :=
  (lookup address).mapError fun reason => .unresolved address reason.message

end MediaProxy
