/-! Decimal numbers read as binary ones: by a single scaling step, and correctly rounded. -/

namespace PipelineTrial

/-- A power of ten as the nearest binary number. -/
def powerOfTen (exponent : Nat) : Float :=
  -- Powers up to 10³⁰⁸ are finite.
  Float.ofScientific 1 false exponent

/-- A number divided by a power of ten, in steps of at most 308 places. -/
def scaleDown (number : Float) (places : Nat) : Float :=
  -- The steps end early once nothing is left to divide.
  if places ≤ 308 then number / powerOfTen places
  else if number == 0.0 then number
  else scaleDown (number / powerOfTen 308) (places - 308)
termination_by places

/-- A significand below 2⁶⁴ times a power of ten, each step rounded once; none when it is too large. -/
def scaledDecimal? (significand : Nat) (exponent : Int) : Option Float :=
  -- Zero stays zero under every power.
  let number := (UInt64.ofNat significand).toFloat
  if exponent < 0 then some (scaleDown number exponent.natAbs)
  else if 308 < exponent then if significand = 0 then some number else none
  else
    let product := number * powerOfTen exponent.toNat
    if product.isFinite then some product else none

/-- A whole significand times a power of ten, rounded once to the nearest binary number. -/
def roundedDecimal (significand : Nat) (exponent : Int) : Float :=
  -- Far exponents are cut to where every significand has overflowed or vanished.
  let digits := (Nat.toDigits 10 significand).length
  if significand = 0 then 0.0
  else if 400 < exponent + digits then 1.0 / 0.0
  else if exponent + digits < -400 then 0.0
  else Float.ofScientific significand (exponent < 0) exponent.natAbs

/-- The number that a run of decimal digits writes. -/
def digitsValue (digits : List Char) : Nat :=
  -- Digits are taken from the left.
  digits.foldl (fun total digit => total * 10 + (digit.toNat - 48)) 0

end PipelineTrial
