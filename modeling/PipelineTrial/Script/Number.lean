import PipelineTrial.Decimal.Layout
import PipelineTrial.Decimal.Scaled
import PipelineTrial.Text.Units

/-! The numbers of scripts, in which whole numbers that need no rounding are kept exact. -/

namespace PipelineTrial

namespace Script

/-- A number: a whole one of at most 53 bits, or any other floating-point number. -/
inductive Number where
  | whole (value : Int)
  | other (value : Float)
  deriving DecidableEq, Inhabited

namespace Number

/-- The largest magnitude up to which every whole number is a floating-point number. -/
def wholeLimit : Nat := Nat.pow 2 53

/-- Zero with a negative sign. -/
def negativeZero : Number := .other (-0.0)

/-- The value of arithmetic without a result. -/
def undefinedResult : Number := .other (0.0 / 0.0)

/-- The number above all others. -/
def infinity : Number := .other (1.0 / 0.0)

/-- The number below all others. -/
def negativeInfinity : Number := .other (-1.0 / 0.0)

/-- The number that a floating-point number is. -/
def ofFloat (value : Float) : Number :=
  -- Whole values are made exact, a negative zero aside.
  if value.abs ≤ 9007199254740992.0 && value.floor == value && value.toBits != 0x8000000000000000 then
    .whole value.toInt64.toInt
  else .other value

/-- The number nearest to a whole number. -/
def ofInt (value : Int) : Number :=
  -- Beyond the limit the value is rounded.
  if value.natAbs ≤ wholeLimit then .whole value
  else
    let magnitude := roundedDecimal value.natAbs 0
    .other (if value < 0 then -magnitude else magnitude)

/-- The number nearest to a natural number. -/
def ofNat (value : Nat) : Number := ofInt value

/-- A significand times a power of ten, rounded once. -/
def ofDecimal (significand : Nat) (exponent : Int) : Number :=
  -- Whole results of moderate size are exact.
  if 0 ≤ exponent && exponent ≤ 15 then ofNat (significand * Nat.pow 10 exponent.toNat)
  else ofFloat (roundedDecimal significand exponent)

/-- The floating-point number that a number is. -/
def toFloat : Number → Float
  | .whole value => (Int64.ofInt value).toFloat
  | .other value => value

/-- Whether a number is the result of arithmetic without a result. -/
def isUndefinedResult : Number → Bool
  | .whole _ => false
  | .other value => value.isNaN

/-- Whether a number is finite. -/
def isFinite : Number → Bool
  | .whole _ => true
  | .other value => value.isFinite

/-- Whether a number is zero, of either sign. -/
def isZero : Number → Bool
  | .whole value => value == 0
  | .other value => value == 0.0

/-- The significand and the power of two of the magnitude of a finite floating-point number. -/
def binaryParts (value : Float) : Nat × Int :=
  -- Subnormal numbers lack the leading bit.
  let bits := value.toBits.toNat
  let fraction := bits % Nat.pow 2 52
  let field : Nat := bits / Nat.pow 2 52 % 2048
  if field == 0 then (fraction, -1074) else (Nat.pow 2 52 + fraction, (field : Int) - 1075)

/-- The whole part of the magnitude of a finite floating-point number. -/
def wholePart (value : Float) : Nat :=
  -- A negative power drops bits.
  let (significand, power) := binaryParts value
  if power < 0 then significand / Nat.pow 2 power.natAbs else significand * Nat.pow 2 power.toNat

/-- A number cut toward zero, with zero for one that is not finite. -/
def truncated : Number → Int
  | .whole value => value
  | .other value =>
    if !value.isFinite then 0
    else
      let magnitude : Int := wholePart value
      if value < 0.0 then -magnitude else magnitude

/-- A number cut toward zero, or none for one that is infinite; no result counts as zero. -/
def wholeOrInfinite : Number → Option Int
  | .whole value => some value
  | .other value =>
    if value.isNaN then some 0
    else if value.isFinite then some (truncated (.other value))
    else none

/-- The 32 lowest bits of a number cut toward zero. -/
def toBits32 (number : Number) : UInt32 :=
  -- Negative numbers wrap around.
  UInt32.ofNat (number.truncated.emod 4294967296).toNat

/-- The signed reading of 32 bits. -/
def ofSigned32 (bits : UInt32) : Number :=
  -- The top bit counts as negative.
  .whole (if bits < 0x80000000 then bits.toNat else (bits.toNat : Int) - 4294967296)

/-- The unsigned reading of 32 bits. -/
def ofUnsigned32 (bits : UInt32) : Number := .whole bits.toNat

/-- The number with the opposite sign. -/
def negate : Number → Number
  | .whole value => if value == 0 then negativeZero else .whole (-value)
  | .other value => ofFloat (-value)

/-- The sum of two numbers. -/
def add : Number → Number → Number
  | .whole left, .whole right =>
    let sum := left + right
    if sum.natAbs ≤ wholeLimit then .whole sum else .other (toFloat (.whole left) + toFloat (.whole right))
  | left, right => ofFloat (left.toFloat + right.toFloat)

/-- The difference of two numbers. -/
def subtract : Number → Number → Number
  | .whole left, .whole right =>
    let difference := left - right
    if difference.natAbs ≤ wholeLimit then .whole difference
    else .other (toFloat (.whole left) - toFloat (.whole right))
  | left, right => ofFloat (left.toFloat - right.toFloat)

/-- The product of two numbers. -/
def multiply : Number → Number → Number
  | .whole left, .whole right =>
    -- A zero product may be negative.
    let product := left * right
    if product != 0 && product.natAbs ≤ wholeLimit then .whole product
    else ofFloat (toFloat (.whole left) * toFloat (.whole right))
  | left, right => ofFloat (left.toFloat * right.toFloat)

/-- The quotient of two numbers. -/
def divide (left right : Number) : Number := ofFloat (left.toFloat / right.toFloat)

/-- The remainder of finite floating-point numbers, the second one not zero, with the sign of the first. -/
def floatRemainder (left right : Float) : Number :=
  -- Both magnitudes are brought to one power of two, where the remainder is exact.
  let (leftSignificand, leftPower) := binaryParts left
  let (rightSignificand, rightPower) := binaryParts right
  let power := min leftPower rightPower
  let remainder := leftSignificand * Nat.pow 2 (leftPower - power).toNat
    % (rightSignificand * Nat.pow 2 (rightPower - power).toNat)
  let magnitude := Float.scaleB (Float.ofNat remainder) power
  ofFloat (if left < 0.0 || left.toBits == 0x8000000000000000 then -magnitude else magnitude)

/-- The remainder of a division, with the sign of the dividend. -/
def remainder : Number → Number → Number
  | .whole left, .whole right =>
    if right == 0 then undefinedResult
    else
      let rest := left.tmod right
      if rest == 0 && left < 0 then negativeZero else .whole rest
  | left, right =>
    let leftFloat := left.toFloat
    let rightFloat := right.toFloat
    if leftFloat.isNaN || rightFloat.isNaN || leftFloat.isInf || rightFloat == 0.0 then undefinedResult
    else if rightFloat.isInf then left
    else floatRemainder leftFloat rightFloat

/-- A power of a number. -/
def power (base exponent : Number) : Number :=
  -- Small whole powers are exact, and one to an infinite power has no result.
  match base, exponent with
  | .whole baseValue, .whole exponentValue =>
    if 0 ≤ exponentValue && exponentValue ≤ 64 && baseValue != 0
        && (Int.pow baseValue exponentValue.toNat).natAbs ≤ wholeLimit then
      .whole (Int.pow baseValue exponentValue.toNat)
    else ofFloat (Float.pow base.toFloat exponent.toFloat)
  | _, _ =>
    let exponentFloat := exponent.toFloat
    if exponentFloat.isNaN then undefinedResult
    else if exponentFloat.isInf && base.toFloat.abs == 1.0 then undefinedResult
    else ofFloat (Float.pow base.toFloat exponentFloat)

/-- Whether a number is below another one. -/
def less : Number → Number → Bool
  | .whole left, .whole right => left < right
  | left, right => left.toFloat < right.toFloat

/-- Whether two numbers are equal, zeros of both signs included. -/
def equals : Number → Number → Bool
  | .whole left, .whole right => left == right
  | left, right => left.toFloat == right.toFloat

/-- Whether two numbers cannot be told apart. -/
def sameValue (left right : Number) : Bool :=
  -- No result is the same as itself, and the zeros differ.
  (left.isUndefinedResult && right.isUndefinedResult) || left == right

/-- Numbers are written in positions from 10⁻⁶ up to 10²¹, without a point when whole. -/
def layout : NumberLayout := ⟨-6, 21, false, true, false⟩

/-- The text of a number. -/
def text : Number → String
  | .whole value => toString value
  | .other value =>
    -- Numbers that are not finite have names.
    if value.isNaN then "NaN"
    else if value.isFinite then layout.write value
    else if value < 0.0 then "-Infinity"
    else "Infinity"

/-- The text of a number in code units. -/
def units (number : Number) : Units := Units.ofString number.text

end Number

end Script

end PipelineTrial
