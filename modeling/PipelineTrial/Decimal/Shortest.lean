/-! The fewest decimal digits that read back as a given binary floating-point number. -/

namespace PipelineTrial

/-- A positive number as a coefficient times a power of ten. -/
structure Decimal where
  coefficient : Nat
  exponent : Int
  deriving DecidableEq, Inhabited

namespace Decimal

/-- The digits of the coefficient. -/
def digits (decimal : Decimal) : List Char := Nat.toDigits 10 decimal.coefficient

/-- The power of ten of the leading digit. -/
def leadingExponent (decimal : Decimal) : Int :=
  -- The last digit stands at the exponent, the leading one to the left of all others.
  decimal.exponent + (decimal.digits.length : Int) - 1

/-- The same number without trailing zeros in its coefficient. -/
def normalized (decimal : Decimal) : Decimal :=
  -- A coefficient is cut by one zero at a time, at most once per digit.
  go decimal.digits.length decimal
where
  go : Nat → Decimal → Decimal
    | 0, decimal => decimal
    | bound + 1, decimal =>
      if decimal.coefficient != 0 && decimal.coefficient % 10 == 0 then
        go bound ⟨decimal.coefficient / 10, decimal.exponent + 1⟩
      else decimal

end Decimal

/-- A positive binary number with the interval of numbers that round to it, over one denominator. -/
structure RoundingInterval where
  low : Nat
  value : Nat
  high : Nat
  denominator : Nat
  endsIncluded : Bool

namespace RoundingInterval

/-- The interval of `significand * 2 ^ power`, narrower below when a binade starts there. -/
def ofBinary (significand : Nat) (power : Int) (startsBinade : Bool) : RoundingInterval :=
  -- Quarters of the unit in the last place make all bounds whole.
  let below := if startsBinade then 4 * significand - 1 else 4 * significand - 2
  let above := 4 * significand + 2
  let even := significand % 2 == 0
  if 2 ≤ power then
    let scale := Nat.pow 2 (power - 2).toNat
    ⟨below * scale, 4 * significand * scale, above * scale, 1, even⟩
  else ⟨below, 4 * significand, above, Nat.pow 2 (2 - power).toNat, even⟩

/-- Whether a decimal number rounds to the value. -/
def contains (interval : RoundingInterval) (decimal : Decimal) : Bool :=
  -- Both sides are brought to whole numbers before they are compared.
  let up := Nat.pow 10 decimal.exponent.toNat
  let down := Nat.pow 10 (-decimal.exponent).toNat
  let scaled := decimal.coefficient * up * interval.denominator
  let low := interval.low * down
  let high := interval.high * down
  if interval.endsIncluded then low ≤ scaled && scaled ≤ high else low < scaled && scaled < high

/-- The coefficient of the last grid point of a power of ten that does not exceed the value. -/
def floorAt (interval : RoundingInterval) (exponent : Int) : Nat :=
  -- The quotient by the grid step is rounded down.
  interval.value * Nat.pow 10 (-exponent).toNat / (interval.denominator * Nat.pow 10 exponent.toNat)

/-- Whether the grid point above the value is nearer than the one below, a tie going to the even one. -/
def nearerAbove (interval : RoundingInterval) (below : Nat) (exponent : Int) : Bool :=
  -- Twice the value is compared with the sum of both neighbours.
  let twice := 2 * interval.value * Nat.pow 10 (-exponent).toNat
  let middle := (2 * below + 1) * (interval.denominator * Nat.pow 10 exponent.toNat)
  middle < twice || (middle == twice && below % 2 == 1)

/-- The grid point of a power of ten that rounds to the value, the nearer one when both do. -/
def hitAt (interval : RoundingInterval) (exponent : Int) : Option Decimal :=
  -- Only the two neighbours of the value can be in the interval before all others.
  let below := interval.floorAt exponent
  let lower : Decimal := ⟨below, exponent⟩
  let upper : Decimal := ⟨below + 1, exponent⟩
  let lowerHits := below != 0 && interval.contains lower
  let upperHits := interval.contains upper
  if lowerHits && upperHits then
    some (if interval.nearerAbove below exponent then upper else lower)
  else if lowerHits then some lower
  else if upperHits then some upper
  else none

/-- The least power of ten above the value, found from the length of its whole part or of its inverse. -/
def magnitude (interval : RoundingInterval) : Int :=
  -- A whole part has as many digits as its magnitude; below one the leading zeros are counted.
  let whole := interval.value / interval.denominator
  if whole != 0 then ((Nat.toDigits 10 whole).length : Int)
  else
    let inverse := (interval.denominator + interval.value - 1) / interval.value
    1 - ((Nat.toDigits 10 (inverse - 1)).length : Int)

/-- The coarsest grid with a hit decides, from one digit on. -/
def shortest (interval : RoundingInterval) : Decimal :=
  -- Seventeen digits always suffice, and the search starts one digit early.
  let top := interval.magnitude
  (search interval top 19).normalized
where
  search (interval : RoundingInterval) (exponent : Int) : Nat → Decimal
    | 0 => ⟨interval.floorAt exponent, exponent⟩
    | bound + 1 =>
      match interval.hitAt exponent with
      | some decimal => decimal
      | none => search interval (exponent - 1) bound

end RoundingInterval

/-- The shortest decimal of the magnitude of a finite number other than zero. -/
def shortestDecimal (number : Float) : Decimal :=
  -- The fields of the binary format give the significand and its power of two.
  let bits := number.toBits.toNat
  let fraction := bits % Nat.pow 2 52
  let field : Nat := bits / Nat.pow 2 52 % 2048
  if field == 0 then (RoundingInterval.ofBinary fraction (-1074) false).shortest
  else
    (RoundingInterval.ofBinary (Nat.pow 2 52 + fraction) ((field : Int) - 1075)
      (fraction == 0 && field != 1)).shortest

end PipelineTrial
