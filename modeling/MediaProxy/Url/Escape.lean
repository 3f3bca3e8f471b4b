import MediaProxy.Text.Basic

/-!
# Percent escapes

A URL holds printable ASCII only. Which of its characters are escaped depends on the place, and
every place has its set; the sets grow from the controls, which are escaped everywhere. A
character beyond ASCII is escaped everywhere too. What is escaped is written octet by octet of
its UTF-8 form, in upper-case hexadecimal.
-/

namespace MediaProxy.Url

/-- A set of characters to escape. -/
abbrev EscapeSet := Char → Bool

/-- What is escaped everywhere: controls and everything beyond ASCII. -/
def controls : EscapeSet := fun c => c.toNat < 0x20 || 0x7E < c.toNat

def fragmentSet : EscapeSet := fun c => controls c || c ∈ [' ', '"', '<', '>', '\x60']

def querySet : EscapeSet := fun c => controls c || c ∈ [' ', '"', '#', '<', '>']

def specialQuerySet : EscapeSet := fun c => querySet c || c = '\x27'

def pathSet : EscapeSet := fun c => fragmentSet c || c ∈ ['#', '?', '\x7b', '\x7d']

/-- What is escaped in a user name and a password. -/
def userinfoSet : EscapeSet := fun c => pathSet c || c ∈ ['/', ':', ';', '=', '@', '[', '\\', ']', '^', '|']

/-- What is escaped in a path segment that was not part of a URL before. -/
def segmentSet : EscapeSet := fun c => pathSet c || c = '/' || c = '%'

/-- What is escaped in such a segment of a special URL. -/
def specialSegmentSet : EscapeSet := fun c => segmentSet c || c = '\\'

/-- A hexadecimal digit, letters in upper case. -/
def upperHex (n : Nat) : Char := (Nat.digitChar n).toUpper

def escapeOctet (b : UInt8) : Text := ['%', upperHex (b.toNat / 16), upperHex (b.toNat % 16)]

def escape (set : EscapeSet) (t : Text) : Text :=
  t.flatMap fun c => if set c then (String.utf8EncodeChar c).flatMap escapeOctet else [c]

/-- The value of a hexadecimal digit in an escape. -/
def hexDigit? (c : Char) : Option Nat :=
  if c.isDigit then some (c.toNat - 48)
  else if 'a' ≤ c ∧ c ≤ 'f' then some (c.toNat - 87)
  else if 'A' ≤ c ∧ c ≤ 'F' then some (c.toNat - 55)
  else none

/-- The octets of a text, with its escapes undone. A percent sign without two hexadecimal digits
behind it stands for itself. -/
def unescape : Text → Bytes
  | [] => []
  | '%' :: high :: low :: rest =>
    match hexDigit? high, hexDigit? low with
    | some h, some l => UInt8.ofNat (16 * h + l) :: unescape rest
    | _, _ => 37 :: unescape (high :: low :: rest)
  | c :: rest => String.utf8EncodeChar c ++ unescape rest

end MediaProxy.Url
