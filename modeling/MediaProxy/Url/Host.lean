import MediaProxy.Domain.Name
import MediaProxy.Url.Basic

/-!
# Hosts in URLs

What may stand as the host of a URL depends on its scheme. The schemes of the web are special:
their hosts are addresses or domain names, which may be in any script and are put in their ASCII
form, and a name that ends in a number is an IPv4 address in any of the old notations. The host of
any other URL is kept as it is written and only must not hold a character that ends a host. In
brackets there is an IPv6 address in either case.
-/

namespace MediaProxy.Url

/-- What is wrong with the text of a URL. -/
inductive UrlDefect where
  | emptyHost
  | domainName
  | port
  | ipv4
  | ipv6
  | hostCharacter
  | noScheme
  deriving DecidableEq, Repr

def UrlDefect.message : UrlDefect → Text
  | .emptyHost => "empty host".toList
  | .domainName => "invalid international domain name".toList
  | .port => "invalid port number".toList
  | .ipv4 => "invalid IPv4 address".toList
  | .ipv6 => "invalid IPv6 address".toList
  | .hostCharacter => "invalid domain character".toList
  | .noScheme => "relative URL without a base".toList

/-- A host in brackets: an IPv6 address. -/
def bracketedHost (inner : Text) : Except UrlDefect Text :=
  match inner.getLast? with
  | some ']' =>
    match IpAddress.readV6? inner.dropLast with
    | some (.v6 groups) => .ok ('[' :: IpAddress.compressed groups ++ [']'])
    | _ => .error .ipv6
  | _ => .error .ipv6

/-- The characters that no host can hold. -/
def endsHost (c : Char) : Bool :=
  c ∈ ['\x00', '\t', '\n', '\r', ' ', '#', '/', ':', '<', '>', '?', '@', '[', '\\', ']', '^', '|']

/-- The characters that no domain name can hold. -/
def endsDomain (c : Char) : Bool := endsHost c || c.toNat < 0x20 || c = '%' || c = '\x7f'

/-- The host of a URL whose scheme is not special. -/
def readPlainHost (t : Text) : Except UrlDefect Text :=
  match t with
  | '[' :: inner => bracketedHost inner
  | _ => if t.any endsHost then .error .hostCharacter else .ok (escape controls t)

/-! ## Addresses in the old notations -/

/-- The value of a numeral in a base, given its digits. -/
def valueInBase? (base : Nat) (digits : Text) : Option Nat :=
  digits.foldlM (fun value c =>
    match IpAddress.hexValue? c with
    | some d => if d < base then some (base * value + d) else none
    | none => none) 0

/-- A number in hexadecimal behind `0x`, in octal behind `0`, or in decimal. -/
def readOldNumber? : Text → Option Nat
  | [] => none
  | '0' :: 'x' :: digits => valueInBase? 16 digits
  | '0' :: 'X' :: digits => valueInBase? 16 digits
  | '0' :: d :: digits => valueInBase? 8 (d :: digits)
  | digits => valueInBase? 10 digits

/-- The labels of a name, without an empty one at its end. -/
def labels (name : Text) : List Text :=
  let all := Text.splitOn '.' name
  if 2 ≤ all.length ∧ all.getLast? = some [] then all.dropLast else all

/-- Whether a name ends in a number, so that it must be an address. -/
def endsInNumber (name : Text) : Bool :=
  match (labels name).getLast? with
  | some last => (last ≠ [] && last.all Char.isDigit) || (readOldNumber? last).isSome
  | none => false

/-- The octets of an address that was given as fewer numbers than four: the last number fills
all octets that are left. -/
def readOldV4 (name : Text) : Except UrlDefect Text :=
  match (labels name).mapM readOldNumber? with
  | none => .error .ipv4
  | some numbers =>
    let front := numbers.dropLast
    let last := numbers.getLastD 0
    if 4 < numbers.length ∨ Nat.pow 256 (4 - front.length) ≤ last ∨ front.any (255 < ·) then .error .ipv4
    else
      let value := (List.range front.length).foldl
        (fun value i => value + front.getD i 0 * Nat.pow 256 (3 - i)) last
      let octet (k : Nat) : UInt8 := UInt8.ofNat (value / Nat.pow 256 k)
      .ok (IpAddress.dotted (octet 3) (octet 2) (octet 1) (octet 0))

/-- The host of a URL whose scheme is special. -/
def readSpecialHost (t : Text) : Except UrlDefect Text :=
  match t with
  | '[' :: inner => bracketedHost inner
  | _ =>
    match Text.ofBytes? (unescape t) with
    | none => .error .domainName
    | some decoded =>
      match Domain.toAscii? endsDomain decoded with
      | none => .error .domainName
      | some [] => .error .emptyHost
      | some name => if endsInNumber name then readOldV4 name else .ok name

end MediaProxy.Url
