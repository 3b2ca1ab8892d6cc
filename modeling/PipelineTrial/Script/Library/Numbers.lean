import PipelineTrial.Script.Library.Objects

/-! Ready-made functions and methods for numbers and booleans, and arithmetic. -/

namespace PipelineTrial

namespace Script

/-- A digit of a base up to 36. -/
def digitUnit (digit : Nat) : UInt16 := UInt16.ofNat (if digit < 10 then 48 + digit else 87 + digit)

/-- The digits of a whole number in a base. -/
def wholeDigits (base value : Nat) : List Nat :=
  -- Zero has one digit.
  if value = 0 then [0] else go value []
where
  go (value : Nat) (digits : List Nat) : List Nat :=
    if 1 < base then
      if value = 0 then digits else go (value / base) (value % base :: digits)
    else digits
  termination_by value
  decreasing_by exact Nat.div_lt_self (by omega) (by omega)

/-- The whole digits of a magnitude in a base, where digits beyond the precision of the number are zeros. -/
def preciseDigits (base : Nat) : Nat → Float → List Nat
  | 0, magnitude => wholeDigits base (Number.wholePart magnitude)
  | bound + 1, magnitude =>
    if 0 < (Number.binaryParts magnitude).2 then
      preciseDigits base bound (magnitude / Float.ofNat base) ++ [0]
    else wholeDigits base (Number.wholePart magnitude)

/-- Digits with one added to the last, given in reverse, and whether the whole part grows. -/
def roundUp (base : Nat) : List Nat → List Nat × Bool
  | [] => ([], true)
  | digit :: rest =>
    if digit + 1 < base then ((digit + 1) :: rest, false) else roundUp base rest

/-- The digits of a fraction in a base, in reverse, up to the ones that tell it from its neighbours. -/
def fractionDigits (base : Float) (baseNat : Nat) :
    Nat → Float → Float → List Nat → List Nat × Bool
  | 0, _, _, digits => (digits, false)
  | bound + 1, fraction, half, digits =>
    let scaled := fraction * base
    let half := half * base
    let digit := scaled.floor
    let rest := scaled - digit
    let digitNat := digit.toUInt64.toNat
    let digits := digitNat :: digits
    if (0.5 < rest || (rest == 0.5 && digitNat % 2 == 1)) && 1.0 < rest + half then
      roundUp baseNat digits
    else if half ≤ rest then fractionDigits base baseNat bound rest half digits
    else (digits, false)

/-- Half the distance from a positive number to the next one. -/
def halfStep (value : Float) : Float :=
  -- The distance is a power of two, and never vanishes.
  let next := Float.ofBits (value.toBits + 1)
  let half := 0.5 * (next - value)
  if half == 0.0 then Float.ofBits 1 else half

/-- A finite number in a base. -/
def inBase (base : Nat) (number : Number) : Units :=
  -- Whole digits are as precise as the number, and the fraction is as short as it can be.
  match number with
  | .whole value =>
    let digits := (preciseDigits base 1 (Number.whole value.natAbs).toFloat).map digitUnit
    if value < 0 then 45 :: digits else digits
  | .other value =>
    let magnitude := value.abs
    let whole := Number.wholePart magnitude
    let fraction := magnitude - magnitude.floor
    let half := halfStep magnitude
    let (digits, carries) :=
      if half ≤ fraction then fractionDigits (Float.ofNat base) base 1100 fraction half []
      else ([], false)
    let whole :=
      if carries then (wholeDigits base (whole + 1)).map digitUnit
      else (preciseDigits base 1100 magnitude).map digitUnit
    let digits := (digits.dropWhile (· == 0)).reverse.map digitUnit
    let shown := if digits.isEmpty then whole else whole ++ 46 :: digits
    if value < 0.0 then 45 :: shown else shown

/-- The exact magnitude of a finite number, as a numerator and a denominator. -/
def fractionOf (number : Number) : Nat × Nat :=
  -- The power of two goes to one side.
  match number with
  | .whole value => (value.natAbs, 1)
  | .other value =>
    let (significand, power) := Number.binaryParts value
    if power < 0 then (significand, Nat.pow 2 power.natAbs) else (significand * Nat.pow 2 power.toNat, 1)

/-- A quotient rounded to the nearest whole number, a half going up. -/
def roundHalfUp (numerator denominator : Nat) : Nat :=
  -- Half the denominator is added before dividing.
  (2 * numerator + denominator) / (2 * denominator)

/-- The sign of a number as it is shown. -/
def signUnits (number : Number) : Units := if number.less (.whole 0) then [45] else []

/-- A number with a fixed count of places behind the point. -/
def fixedText (number : Number) (places : Nat) : Units :=
  -- The digits of the scaled number are cut before the last places.
  let (numerator, denominator) := fractionOf number
  let scaled := roundHalfUp (numerator * Nat.pow 10 places) denominator
  let digits := Nat.toDigits 10 scaled
  let padded := List.replicate (places + 1 - digits.length) '0' ++ digits
  let whole := padded.take (padded.length - places)
  let fraction := padded.drop (padded.length - places)
  let shown := if fraction.isEmpty then whole else whole ++ '.' :: fraction
  signUnits number ++ Units.ofChars shown

/-- Whether a magnitude is below a power of ten. -/
def belowPower (numerator denominator : Nat) (exponent : Int) : Bool :=
  -- The power goes to the side where it is whole.
  if 0 ≤ exponent then numerator < denominator * Nat.pow 10 exponent.toNat
  else numerator * Nat.pow 10 exponent.natAbs < denominator

/-- The leading digits of a positive magnitude in a given count, with the exponent of the first. -/
def leadingDigits (number : Number) (count : Nat) : List Char × Int :=
  -- The shortest digits may overstate the exponent by one, and rounding may raise it.
  let (numerator, denominator) := fractionOf number
  if numerator = 0 then (List.replicate count '0', 0)
  else
    let guess := (shortestDecimal number.toFloat).leadingExponent
    let exponent := if belowPower numerator denominator guess then guess - 1 else guess
    let shift : Int := count - 1 - exponent
    let scaled := if 0 ≤ shift then roundHalfUp (numerator * Nat.pow 10 shift.toNat) denominator
      else roundHalfUp numerator (denominator * Nat.pow 10 shift.natAbs)
    let digits := Nat.toDigits 10 scaled
    if count < digits.length then (digits.take count, exponent + 1) else (digits, exponent)

/-- Digits with a point after the first and an exponent. -/
def exponentText (digits : List Char) (exponent : Int) : Units :=
  -- The exponent always carries its sign.
  let point := match digits with
    | first :: second :: rest => first :: '.' :: second :: rest
    | other => other
  let sign := if exponent < 0 then '-' else '+'
  Units.ofChars (point ++ 'e' :: sign :: Nat.toDigits 10 exponent.natAbs)

/-- A number with a given count of digits in all. -/
def precisionText (number : Number) (count : Nat) : Units :=
  -- Far exponents are written out.
  let (digits, exponent) := leadingDigits number count
  if exponent < -6 || (count : Int) ≤ exponent then signUnits number ++ exponentText digits exponent
  else if exponent = count - 1 then signUnits number ++ Units.ofChars digits
  else if 0 ≤ exponent then
    let whole := exponent.toNat + 1
    signUnits number ++ Units.ofChars (digits.take whole ++ '.' :: digits.drop whole)
  else
    signUnits number
      ++ Units.ofChars ('0' :: '.' :: (List.replicate (-exponent - 1).toNat '0' ++ digits))

/-- A number with an exponent and a count of places, the shortest digits when none is given. -/
def exponentialText (number : Number) (places : Option Nat) : Units :=
  -- Zero has the exponent zero.
  match places with
  | some places =>
    let (digits, exponent) := leadingDigits number (places + 1)
    signUnits number ++ exponentText digits exponent
  | none =>
    if number.isZero then exponentText ['0'] 0
    else
      let decimal := shortestDecimal number.toFloat
      signUnits number ++ exponentText decimal.digits decimal.leadingExponent

/-- The number rounded to the nearest whole one, a half going up. -/
def roundNumber (number : Number) : Number :=
  -- Numbers just below zero become negative zero.
  match number with
  | .whole value => .whole value
  | .other value =>
    if !value.isFinite then number
    else
      let below := value.floor
      let rounded := if 0.5 ≤ value - below then below + 1.0 else below
      if rounded == 0.0 && (value < 0.0 || value.toBits == 0x8000000000000000) then .negativeZero
      else .ofFloat rounded

/-- The number cut to a whole one, keeping the sign of zero. -/
def truncateNumber (number : Number) : Number :=
  -- Cutting goes toward zero.
  match number with
  | .whole value => .whole value
  | .other value =>
    if value < 0.0 then .ofFloat value.ceil else .ofFloat value.floor

/-- The larger of two numbers. -/
def largerNumber (left right : Number) : Number :=
  -- No result wins, and positive zero is above negative zero.
  if left.isUndefinedResult || right.isUndefinedResult then .undefinedResult
  else if left.isZero && right.isZero then (if left == .whole 0 then left else right)
  else if left.less right then right
  else left

/-- The smaller of two numbers. -/
def smallerNumber (left right : Number) : Number :=
  -- No result wins, and negative zero is below positive zero.
  if left.isUndefinedResult || right.isUndefinedResult then .undefinedResult
  else if left.isZero && right.isZero then (if left == .whole 0 then right else left)
  else if right.less left then right
  else left

/-- The sign of a number, zero and no result standing for themselves. -/
def signNumber (number : Number) : Number :=
  -- The size does not matter.
  if number.isUndefinedResult || number.isZero then number
  else if number.less (.whole 0) then .whole (-1)
  else .whole 1

/-- The number of leading zeros of 32 bits. -/
def leadingZeros (bits : Nat) : Nat :=
  -- Zero has no other bit.
  if bits = 0 then 32 else 31 - bits.log2

/-- A function of one number. -/
def onFloat (function : Float → Float) (number : Number) : Number :=
  -- The result is exact where it is whole.
  .ofFloat (function number.toFloat)

/-- The result of a function of arithmetic on one number. -/
def mathOfOne (operation : MathOperation) (number : Number) : Number :=
  -- Rounding keeps the sign of zero.
  match operation with
  | .abs =>
    match number with
    | .whole value => .whole value.natAbs
    | .other value => .ofFloat value.abs
  | .acos => onFloat Float.acos number
  | .acosh => onFloat Float.acosh number
  | .asin => onFloat Float.asin number
  | .asinh => onFloat Float.asinh number
  | .atan => onFloat Float.atan number
  | .atanh => onFloat Float.atanh number
  | .cbrt => onFloat Float.cbrt number
  | .ceil => onFloat Float.ceil number
  | .clz32 => .ofNat (leadingZeros number.toBits32.toNat)
  | .cos => onFloat Float.cos number
  | .cosh => onFloat Float.cosh number
  | .exp => onFloat Float.exp number
  | .expm1 => onFloat (fun value => value.exp - 1.0) number
  | .floor => onFloat Float.floor number
  | .fround => onFloat (fun value => value.toFloat32.toFloat) number
  | .log => onFloat Float.log number
  | .log10 => onFloat Float.log10 number
  | .log1p => onFloat (fun value => (1.0 + value).log) number
  | .log2 => onFloat Float.log2 number
  | .round => roundNumber number
  | .sign => signNumber number
  | .sin => onFloat Float.sin number
  | .sinh => onFloat Float.sinh number
  | .sqrt => onFloat Float.sqrt number
  | .tan => onFloat Float.tan number
  | .tanh => onFloat Float.tanh number
  | .trunc => truncateNumber number
  | _ => number

/-- The length of a vector. -/
def vectorLength (numbers : List Number) : Number :=
  -- An infinite part wins over no result.
  if numbers.any fun number => number.toFloat.isInf then .infinity
  else .ofFloat ((numbers.foldl (fun (total : Float) (number : Number) =>
    total + number.toFloat * number.toFloat) 0.0).sqrt)

namespace Interpreter

/-- Runs a function of arithmetic. -/
def runMathOperation (self : Interpreter) (operation : MathOperation) (arguments : List Value) :
    Run Value := do
  -- All arguments are converted before anything is computed.
  match operation with
  | .max => return .number ((← arguments.mapM self.toNumber).foldl largerNumber .negativeInfinity)
  | .min => return .number ((← arguments.mapM self.toNumber).foldl smallerNumber .infinity)
  | .hypot => return .number (vectorLength (← arguments.mapM self.toNumber))
  | .pow =>
    let base ← self.toNumber (argument arguments 0)
    let exponent ← self.toNumber (argument arguments 1)
    return .number (base.power exponent)
  | .atan2 =>
    let rise ← self.toNumber (argument arguments 0)
    let run ← self.toNumber (argument arguments 1)
    return .number (.ofFloat (Float.atan2 rise.toFloat run.toFloat))
  | .imul =>
    let left ← self.toNumber (argument arguments 0)
    let right ← self.toNumber (argument arguments 1)
    return .number (.ofSigned32 (left.toBits32 * right.toBits32))
  | .random => return .number (.ofFloat 0.5)
  | _ => return .number (mathOfOne operation (← self.toNumber (argument arguments 0)))

/-- The number that a method of numbers is called on. -/
def receiverNumber (receiver : Value) : Run Number := do
  -- Nothing is converted.
  match ← unwrap receiver with
  | .number number => return number
  | _ => Run.failType "'this' is not a number"

/-- A count of digits within bounds. -/
def digitCount (self : Interpreter) (value : Value) (least most : Nat) (message : String) :
    Run Nat := do
  -- Other counts are refused.
  match ← self.toWhole value with
  | (some whole, _) =>
    if (least : Int) ≤ whole && whole ≤ most then return whole.toNat
    else Run.fail .rangeError message
  | (none, _) => Run.fail .rangeError message

/-- Runs a method of numbers. -/
def runNumberMethod (self : Interpreter) (method : NumberMethod) (receiver : Value)
    (arguments : List Value) : Run Value := do
  -- Numbers that are not finite are shown by name.
  let number ← receiverNumber receiver
  let first := argument arguments 0
  match method with
  | .valueOf => return .number number
  | .toLocaleString => return .text number.units
  | .toString =>
    let base ← match first with
      | .undefined => pure 10
      | other =>
        self.digitCount other 2 36 "radix must be an integer at least 2 and no greater than 36"
    if base = 10 || !number.isFinite then return .text number.units
    else return .text (inBase base number)
  | .toFixed =>
    let places ← self.digitCount first 0 100
      "toFixed() digits argument must be between 0 and 100"
    if !number.isFinite || 1e21 ≤ number.toFloat.abs then return .text number.units
    else return .text (fixedText number places)
  | .toPrecision =>
    match first with
    | .undefined => return .text number.units
    | other =>
      if !number.isFinite then return .text number.units
      else
        let count ← self.digitCount other 1 100
          "precision must be an integer at least 1 and no greater than 100"
        return .text (precisionText number count)
  | .toExponential =>
    if !number.isFinite then return .text number.units
    else
      match first with
      | .undefined => return .text (exponentialText number none)
      | other =>
        let places ← self.digitCount other 0 100
          "toExponential() argument must be between 0 and 100"
        return .text (exponentialText number (some places))

/-- Runs a function over numbers that converts nothing. -/
def runNumberOperation (operation : NumberOperation) (arguments : List Value) : Value :=
  -- Values of other types never qualify.
  match argument arguments 0 with
  | .number number =>
    let isWhole := number.isFinite && (truncateNumber number).equals number
    match operation with
    | .isFinite => .boolean number.isFinite
    | .isInteger => .boolean isWhole
    | .isNaN => .boolean number.isUndefinedResult
    | .isSafeInteger => .boolean (isWhole && number.toFloat.abs ≤ 9007199254740991.0)
  | _ => .boolean false

/-- The number that the longest readable beginning of a text writes. -/
def parseNumber (units : Units) : Number :=
  -- Nothing readable is no number.
  let chars := (trimStart units).map fun unit => Char.ofNat unit.toNat
  match readSigned? chars with
  | some (number, _) => number
  | none => .undefinedResult

/-- The whole number that the longest run of digits at the start of a text writes. -/
def parseWhole (units : Units) (base : Int) : Number :=
  -- A base mark for sixteen is skipped unless another base is given.
  let chars := (trimStart units).map fun unit => Char.ofNat unit.toNat
  let (isNegative, chars) := match chars with
    | '-' :: rest => (true, rest)
    | '+' :: rest => (false, rest)
    | _ => (false, chars)
  let (base, chars) :=
    if base == 0 || base == 16 then
      match chars with
      | '0' :: 'x' :: rest => (16, rest)
      | '0' :: 'X' :: rest => (16, rest)
      | _ => (if base == 0 then 10 else 16, chars)
    else (base, chars)
  if base < 2 || 36 < base then .undefinedResult
  else
    let digits := chars.takeWhile fun char => (digitOf? char).any fun digit => digit < base
    if digits.isEmpty then .undefinedResult
    else
      let value := Number.ofNat (valueInBase base.toNat digits)
      if isNegative then value.negate else value

/-- Runs a function that belongs to no kind of value. -/
def runGlobalOperation (self : Interpreter) (operation : GlobalOperation) (arguments : List Value) :
    Run Value := do
  -- The argument is converted first.
  let first := argument arguments 0
  match operation with
  | .isFinite => return .boolean (← self.toNumber first).isFinite
  | .isNaN => return .boolean (← self.toNumber first).isUndefinedResult
  | .parseFloat => return .number (parseNumber (← self.toText first))
  | .parseInt =>
    let units ← self.toText first
    let base ← self.toNumber (argument arguments 1)
    return .number (parseWhole units (Number.ofSigned32 base.toBits32).truncated)

/-- Makes a number, and an object around it when it is constructed. -/
def makeNumber (self : Interpreter) (arguments : List Value) (isConstructed : Bool) : Run Value := do
  -- Without an argument the number is zero.
  let number ← match arguments with
    | [] => pure (.whole 0)
    | value :: _ => self.toNumber value
  if isConstructed then return .object (← toObject (.number number)) else return .number number

/-- Makes a boolean, and an object around it when it is constructed. -/
def makeBoolean (arguments : List Value) (isConstructed : Bool) : Run Value := do
  -- Every value is true or false.
  let value := Value.boolean (truth (argument arguments 0))
  if isConstructed then return .object (← toObject value) else return value

/-- Runs a method of booleans. -/
def runBooleanMethod (method : BooleanMethod) (receiver : Value) : Run Value := do
  -- Nothing is converted.
  match ← unwrap receiver with
  | .boolean value =>
    match method with
    | .valueOf => return .boolean value
    | .toString => return .text (primitiveText (.boolean value))
  | _ => Run.failType "'this' is not a boolean"

end Interpreter

/-- The functions over numbers by name. -/
def numberOperations : BuiltinTable NumberOperation :=
  [("isFinite", 1, .isFinite), ("isInteger", 1, .isInteger), ("isNaN", 1, .isNaN),
    ("isSafeInteger", 1, .isSafeInteger)]

/-- The constants of numbers by name. -/
def numberConstants : List (String × Number) :=
  [("EPSILON", .ofFloat (Float.ofBits 0x3cb0000000000000)),
    ("MAX_SAFE_INTEGER", .whole 9007199254740991), ("MAX_VALUE", .ofFloat (Float.ofBits 0x7fefffffffffffff)),
    ("MIN_SAFE_INTEGER", .whole (-9007199254740991)), ("MIN_VALUE", .ofFloat (Float.ofBits 1)),
    ("NEGATIVE_INFINITY", .negativeInfinity), ("NaN", .undefinedResult),
    ("POSITIVE_INFINITY", .infinity)]

/-- The methods of numbers by name. -/
def numberMethods : BuiltinTable NumberMethod :=
  [("toExponential", 1, .toExponential), ("toFixed", 1, .toFixed),
    ("toLocaleString", 0, .toLocaleString), ("toPrecision", 1, .toPrecision),
    ("toString", 1, .toString), ("valueOf", 0, .valueOf)]

/-- The methods of booleans by name. -/
def booleanMethods : BuiltinTable BooleanMethod := [("toString", 0, .toString), ("valueOf", 0, .valueOf)]

/-- The functions of arithmetic by name. -/
def mathOperations : BuiltinTable MathOperation :=
  [("abs", 1, .abs), ("acos", 1, .acos), ("acosh", 1, .acosh), ("asin", 1, .asin),
    ("asinh", 1, .asinh), ("atan", 1, .atan), ("atan2", 2, .atan2), ("atanh", 1, .atanh),
    ("cbrt", 1, .cbrt), ("ceil", 1, .ceil), ("clz32", 1, .clz32), ("cos", 1, .cos),
    ("cosh", 1, .cosh), ("exp", 1, .exp), ("expm1", 1, .expm1), ("floor", 1, .floor),
    ("fround", 1, .fround), ("hypot", 2, .hypot), ("imul", 2, .imul), ("log", 1, .log),
    ("log10", 1, .log10), ("log1p", 1, .log1p), ("log2", 1, .log2), ("max", 2, .max),
    ("min", 2, .min), ("pow", 2, .pow), ("random", 0, .random), ("round", 1, .round),
    ("sign", 1, .sign), ("sin", 1, .sin), ("sinh", 1, .sinh), ("sqrt", 1, .sqrt), ("tan", 1, .tan),
    ("tanh", 1, .tanh), ("trunc", 1, .trunc)]

/-- The constants of arithmetic by name, each the nearest number. -/
def mathConstants : List (String × Number) :=
  [("E", .ofFloat (Float.ofBits 0x4005bf0a8b145769)), ("LN10", .ofFloat (Float.ofBits 0x40026bb1bbb55516)),
    ("LN2", .ofFloat (Float.ofBits 0x3fe62e42fefa39ef)),
    ("LOG10E", .ofFloat (Float.ofBits 0x3fdbcb7b1526e50e)),
    ("LOG2E", .ofFloat (Float.ofBits 0x3ff71547652b82fe)), ("PI", .ofFloat (Float.ofBits 0x400921fb54442d18)),
    ("SQRT1_2", .ofFloat (Float.ofBits 0x3fe6a09e667f3bcd)),
    ("SQRT2", .ofFloat (Float.ofBits 0x3ff6a09e667f3bcd))]

/-- The functions that belong to no kind of value by name. -/
def globalOperations : BuiltinTable GlobalOperation :=
  [("isFinite", 1, .isFinite), ("isNaN", 1, .isNaN), ("parseFloat", 1, .parseFloat),
    ("parseInt", 2, .parseInt)]

end Script

end PipelineTrial
