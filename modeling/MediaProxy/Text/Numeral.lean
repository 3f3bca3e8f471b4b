import MediaProxy.Text.Basic

/-!
# Decimal numerals

Numbers are written in decimal without leading zeros. They are read more freely: one plus sign
may stand in front and leading zeros do not matter, but there must be a digit, nothing else may
follow, and the value must fit the width that the reader asks for. A value that does not fit is
no number at all; it is never wrapped or cut.
-/

namespace MediaProxy.Text

/-- The decimal digits of a number, without leading zeros. -/
def ofNat (n : Nat) : Text := Nat.toDigits 10 n

/-- The value of a run of decimal digits below `bound`. -/
def digitsBelow? (bound : Nat) (digits : Text) : Option Nat :=
  if digits ≠ [] ∧ digits.all Char.isDigit then
    let value := Nat.ofDigitChars 10 digits 0
    if value < bound then some value else none
  else none

/-- The value of a numeral below `bound`: digits, with at most one plus sign in front. -/
def readBelow? (bound : Nat) : Text → Option Nat
  | '+' :: digits => digitsBelow? bound digits
  | digits => digitsBelow? bound digits

/-- A numeral read as a number of sixteen bits. -/
def readUInt16? (t : Text) : Option UInt16 := (readBelow? UInt16.size t).map UInt16.ofNat

/-- A numeral read as a number of thirty-two bits. -/
def readUInt32? (t : Text) : Option UInt32 := (readBelow? UInt32.size t).map UInt32.ofNat

/-- A numeral read as a number of sixty-four bits. -/
def readUInt64? (t : Text) : Option UInt64 := (readBelow? UInt64.size t).map UInt64.ofNat

/-- What was written as digits reads back, whatever width holds the number. -/
theorem digitsBelow?_ofNat {bound n : Nat} (h : n < bound) : digitsBelow? bound (ofNat n) = some n := by
  have hdigits : (Nat.toDigits 10 n).all Char.isDigit = true := by
    rw [List.all_eq_true]
    intro c hc
    exact Nat.isDigit_of_mem_toDigits (by decide) (by decide) hc
  simp [digitsBelow?, ofNat, Nat.toDigits_ne_nil, hdigits, h]

/-- The digits of a number start with a digit, so no sign is mistaken for one. -/
theorem readBelow?_ofNat {bound n : Nat} (h : n < bound) : readBelow? bound (ofNat n) = some n := by
  unfold readBelow?
  split
  · rename_i digits heq
    have hmem : '+' ∈ Nat.toDigits 10 n := by
      have : ofNat n = Nat.toDigits 10 n := rfl
      rw [← this, heq]
      exact List.mem_cons_self
    have := Nat.isDigit_of_mem_toDigits (by decide) (by decide) hmem
    exact absurd this (by decide)
  · exact digitsBelow?_ofNat h

end MediaProxy.Text
