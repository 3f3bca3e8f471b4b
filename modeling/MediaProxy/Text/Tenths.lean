import MediaProxy.Text.Numeral

/-!
# Numbers with one decimal

A measured number is shown with one digit behind the point, rounded to the nearest tenth; a number
half way between two tenths goes to the even one. The rounding is exact: it starts from the binary
value of the number and not from a decimal approximation of it.
-/

namespace MediaProxy.Text

/-- The quotient of two numbers, rounded to the nearest; a tie goes to the even neighbour. -/
def roundDiv (n d : Nat) : Nat :=
  let q := n / d
  let twice := 2 * (n % d)
  if twice < d then q
  else if d < twice then q + 1
  else if q % 2 = 0 then q
  else q + 1

/-- The tenths of a binary number, rounded; the sign is left out. -/
def tenths (x : Float) : Nat :=
  let bits := x.toBits.toNat
  let exponent := bits / Nat.pow 2 52 % Nat.pow 2 11
  let fraction := bits % Nat.pow 2 52
  if exponent = 0 then roundDiv (10 * fraction) (Nat.pow 2 1074)
  else if 1075 ≤ exponent then 10 * (fraction + Nat.pow 2 52) * Nat.pow 2 (exponent - 1075)
  else roundDiv (10 * (fraction + Nat.pow 2 52)) (Nat.pow 2 (1075 - exponent))

/-- A number that is not negative, with one decimal. -/
def ofRate (x : Float) : Text := ofNat (tenths x / 10) ++ '.' :: ofNat (tenths x % 10)

end MediaProxy.Text
