import MediaProxy.Text.Basic

/-!
# Lossy UTF-8

A message body may hold anything, and is still shown as text: octets that are no UTF-8 become
the replacement character. How many replacement characters appear is fixed by the rule that
each stands for one longest run of octets that some character could have started with, or for
a single octet when no character starts with it.

The reader walks the octets once. Between two octets it is either between characters or inside
one (`Partial`), where it knows how many octets are still owed and in which range the next one
has to lie; the range is what rules out overlong forms, surrogates and values past the last
code point.
-/

namespace MediaProxy.Text

/-- The character that stands for octets which are no UTF-8. -/
def replacement : Char := '\ufffd'

/-- A **character in progress**: the octets still owed, the range of the next one, and the
value of the octets read so far. -/
structure Partial where
  owed : Nat
  low : UInt8
  high : UInt8
  value : Nat

/-- What the first octet of a character announces. -/
inductive Lead where
  /-- A character of one octet. -/
  | whole (c : Char)
  /-- A character of several octets. -/
  | more (rest : Partial)
  /-- No character starts with this octet. -/
  | wrong

/-- The announcement of a first octet. -/
def lead (b : UInt8) : Lead :=
  if b < 0x80 then .whole (Char.ofNat b.toNat)
  else if b < 0xC2 then .wrong
  else if b < 0xE0 then .more ⟨1, 0x80, 0xBF, b.toNat - 0xC0⟩
  else if b = 0xE0 then .more ⟨2, 0xA0, 0xBF, 0⟩
  else if b = 0xED then .more ⟨2, 0x80, 0x9F, 0xD⟩
  else if b < 0xF0 then .more ⟨2, 0x80, 0xBF, b.toNat - 0xE0⟩
  else if b = 0xF0 then .more ⟨3, 0x90, 0xBF, 0⟩
  else if b < 0xF4 then .more ⟨3, 0x80, 0xBF, b.toNat - 0xF0⟩
  else if b = 0xF4 then .more ⟨3, 0x80, 0x8F, 4⟩
  else .wrong

/-- The text of the octets from here on, `pending` being the character in progress. -/
def lossyFrom : Option Partial → Bytes → Text
  | none, [] => []
  | some _, [] => [replacement]
  | none, b :: rest =>
    match lead b with
    | .whole c => c :: lossyFrom none rest
    | .more p => lossyFrom (some p) rest
    | .wrong => replacement :: lossyFrom none rest
  | some p, b :: rest =>
    if p.low ≤ b ∧ b ≤ p.high then
      let value := p.value * 64 + (b.toNat - 0x80)
      if p.owed ≤ 1 then Char.ofNat value :: lossyFrom none rest
      else lossyFrom (some ⟨p.owed - 1, 0x80, 0xBF, value⟩) rest
    else
      match lead b with
      | .whole c => replacement :: c :: lossyFrom none rest
      | .more q => replacement :: lossyFrom (some q) rest
      | .wrong => replacement :: replacement :: lossyFrom none rest

/-- The text of any octets, with replacement characters where they are no UTF-8. -/
def lossy (bytes : Bytes) : Text := lossyFrom none bytes

end MediaProxy.Text
