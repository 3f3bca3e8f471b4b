import MediaProxy.Text.Numeral

/-!
# Internet addresses

IPv4 and IPv6 addresses and sockets on them, with the one text that each is written as and the
texts that each is read from.

An IPv4 address is read from four decimal octets without leading zeros. An IPv6 address is read
from eight groups of up to four hexadecimal digits; a double colon stands once for the groups of
zeros that are missing, at least one, and an IPv4 address may stand for the last two groups. It
is written with the first longest run of two or more zero groups put as a double colon.

A socket address is read strictly: a port is digits only, and an IPv6 address stands in brackets.
There it may name its zone, the link that it is valid on, as a number behind a percent sign.
-/

namespace MediaProxy

/-- An **IP address**: the four octets or the eight groups. -/
inductive IpAddress where
  | v4 (a b c d : UInt8)
  | v6 (groups : List UInt16)
  deriving DecidableEq, Repr

namespace IpAddress

/-! ## IPv4 -/

/-- A decimal octet: one to three digits, no leading zero, at most 255. -/
def readOctet? (t : Text) : Option UInt8 :=
  if t.length ≤ 3 ∧ (t.head? ≠ some '0' ∨ t.length = 1) then
    (Text.digitsBelow? UInt8.size t).map UInt8.ofNat
  else none

def readOctets? (t : Text) : Option (UInt8 × UInt8 × UInt8 × UInt8) :=
  match Text.splitOn '.' t with
  | [a, b, c, d] => do
    return (← readOctet? a, ← readOctet? b, ← readOctet? c, ← readOctet? d)
  | _ => none

def readV4? (t : Text) : Option IpAddress :=
  (readOctets? t).map fun (a, b, c, d) => .v4 a b c d

def dotted (a b c d : UInt8) : Text :=
  Text.join ['.'] ([a, b, c, d].map fun octet => Text.ofNat octet.toNat)

/-! ## IPv6 -/

def hexValue? (c : Char) : Option Nat :=
  if c.isDigit then some (c.toNat - '0'.toNat)
  else if 'a' ≤ c ∧ c ≤ 'f' then some (c.toNat - 'a'.toNat + 10)
  else if 'A' ≤ c ∧ c ≤ 'F' then some (c.toNat - 'A'.toNat + 10)
  else none

/-- A group: one to four hexadecimal digits. -/
def readGroup? (t : Text) : Option UInt16 :=
  if t ≠ [] ∧ t.length ≤ 4 then
    (t.mapM hexValue?).map fun digits => UInt16.ofNat (digits.foldl (fun n d => 16 * n + d) 0)
  else none

/-- The groups between colons; the last one may be an IPv4 address if `dotsAllowed`. -/
def readGroups? (dotsAllowed : Bool) : List Text → Option (List UInt16)
  | [] => some []
  | [last] =>
    match readGroup? last with
    | some group => some [group]
    | none =>
      if dotsAllowed then
        (readOctets? last).map fun (a, b, c, d) =>
          [UInt16.ofNat (a.toNat * 256 + b.toNat), UInt16.ofNat (c.toNat * 256 + d.toNat)]
      else none
  | group :: more => do
    let group ← readGroup? group
    let groups ← readGroups? dotsAllowed more
    return group :: groups

/-- The two sides of the first double colon. -/
def cutAtDoubleColon : Text → Option (Text × Text)
  | ':' :: ':' :: rest => some ([], rest)
  | c :: rest => (cutAtDoubleColon rest).map fun (before, after) => (c :: before, after)
  | [] => none

/-- The pieces of one side of a double colon; nothing stands for no piece. -/
def sidePieces (side : Text) : List Text := if side = [] then [] else Text.splitOn ':' side

/-- An IPv6 address without brackets. -/
def readV6? (t : Text) : Option IpAddress :=
  match cutAtDoubleColon t with
  | none => do
    let groups ← readGroups? true (Text.splitOn ':' t)
    if groups.length = 8 then some (.v6 groups) else none
  | some (before, after) => do
    let front ← readGroups? false (sidePieces before)
    let back ← readGroups? true (sidePieces after)
    if front.length + back.length ≤ 7 then
      some (.v6 (front ++ List.replicate (8 - front.length - back.length) 0 ++ back))
    else none

/-- The length of the run of zeros at the start. -/
def leadingZeros (groups : List UInt16) : Nat := (groups.takeWhile (· = 0)).length

/-- Where the first longest run of zeros starts, and how long it is. -/
def longestZeros (groups : List UInt16) : Nat × Nat :=
  (List.range groups.length).foldl (fun (start, length) i =>
    let here := leadingZeros (groups.drop i)
    if length < here then (i, here) else (start, length)) (0, 0)

/-- Groups in hexadecimal, with colons between them. -/
def colonHex (groups : List UInt16) : Text :=
  Text.join [':'] (groups.map fun group => Nat.toDigits 16 group.toNat)

/-- Eight groups, the first longest run of two or more zeros put as a double colon. -/
def compressed (groups : List UInt16) : Text :=
  let (start, length) := longestZeros groups
  if 2 ≤ length then
    colonHex (groups.take start) ++ "::".toList ++ colonHex (groups.drop (start + length))
  else colonHex groups

/-! ## Both -/

/-- The text of an address. An IPv6 address that stands for an IPv4 one shows it in dotted form. -/
def render : IpAddress → Text
  | .v4 a b c d => dotted a b c d
  | .v6 [0, 0, 0, 0, 0, 0xFFFF, x, y] =>
    "::ffff:".toList
      ++ dotted (x >>> 8).toUInt8 x.toUInt8 (y >>> 8).toUInt8 y.toUInt8
  | .v6 groups => compressed groups

/-- An address of either kind, without brackets. -/
def read? (t : Text) : Option IpAddress := (readV4? t).or (readV6? t)

def isV4 : IpAddress → Bool
  | .v4 .. => true
  | .v6 _ => false

def isWildcard : IpAddress → Bool
  | .v4 a b c d => a = 0 ∧ b = 0 ∧ c = 0 ∧ d = 0
  | .v6 groups => groups.all (· = 0)

end IpAddress

/-- A **socket address**: an address and a port on it. -/
structure SocketAddress where
  ip : IpAddress
  port : UInt16
  /-- The zone of an IPv6 address, zero if it names none. -/
  zone : UInt32 := 0
  deriving DecidableEq, Repr

namespace SocketAddress

/-- The text of a socket address; an IPv6 address stands in brackets, with its zone if it names
one. -/
def render (s : SocketAddress) : Text :=
  let zone := if s.zone = 0 then [] else '%' :: Text.ofNat s.zone.toNat
  let host :=
    match s.ip with
    | .v4 .. => s.ip.render
    | .v6 _ => '[' :: s.ip.render ++ zone ++ [']']
  host ++ ':' :: Text.ofNat s.port.toNat

/-- The socket address that names no zone. -/
def unzoned (s : SocketAddress) : SocketAddress := { s with zone := 0 }

/-- A port in digits only. -/
def readPort? (t : Text) : Option UInt16 := (Text.digitsBelow? UInt16.size t).map UInt16.ofNat

/-- A zone in digits only. -/
def readZone? (t : Text) : Option UInt32 := (Text.digitsBelow? UInt32.size t).map UInt32.ofNat

/-- An IPv6 address and the zone that it names, zero if it names none. -/
def readZoned? (t : Text) : Option (IpAddress × UInt32) := do
  match Text.cutAt '%' t with
  | none => return (← IpAddress.readV6? t, 0)
  | some (ip, zone) => return (← IpAddress.readV6? ip, ← readZone? zone)

/-- The address and zone that stand in front of a port: dotted, or in brackets. -/
def readHost? : Text → Option (IpAddress × UInt32)
  | '[' :: rest =>
    match rest.getLast? with
    | some ']' => readZoned? rest.dropLast
    | _ => none
  | host => (IpAddress.readV4? host).map fun ip => (ip, 0)

def read? (t : Text) : Option SocketAddress := do
  let (host, port) ← Text.cutAtLast ':' t
  let (ip, zone) ← readHost? host
  let port ← readPort? port
  return { ip, port, zone }

end SocketAddress

end MediaProxy
