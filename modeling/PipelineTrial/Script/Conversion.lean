import PipelineTrial.Script.Lexeme
import PipelineTrial.Script.Member

/-! Conversions between the types of values. -/

namespace PipelineTrial

namespace Script

/-- A character that is dropped at the ends of texts. -/
def isTrimmed (char : Char) : Bool := isScriptBlank char || isLineTerminator char

/-- A unit that is dropped at the ends of texts. -/
def isTrimmedUnit (unit : UInt16) : Bool := isTrimmed (Char.ofNat unit.toNat) && unit != 0

/-- A text without the leading units to drop. -/
def trimStart (units : Units) : Units := units.dropWhile isTrimmedUnit

/-- A text without the trailing units to drop. -/
def trimEnd (units : Units) : Units := (units.reverse.dropWhile isTrimmedUnit).reverse

/-- The exponent after a number, zero when none is written out, with the rest. -/
def optionalExponent (chars : List Char) : Int × List Char :=
  -- A mark without digits is left in place.
  (readScriptExponent chars).getD (0, chars)

/-- The longest decimal number without a sign at the start of a text. -/
def readMagnitude? (chars : List Char) : Option (Number × List Char) :=
  -- Digits are needed on at least one side of the point.
  let whole := chars.takeWhile Char.isDigit
  let afterWhole := chars.dropWhile Char.isDigit
  let (fraction, rest) := match afterWhole with
    | '.' :: rest =>
      if whole.isEmpty && !(rest.head?.any Char.isDigit) then ([], afterWhole)
      else (rest.takeWhile Char.isDigit, rest.dropWhile Char.isDigit)
    | _ => ([], afterWhole)
  if whole.isEmpty && fraction.isEmpty then none
  else
    let (exponent, rest) := optionalExponent rest
    some (.ofDecimal (digitsValue (whole ++ fraction)) (exponent - fraction.length), rest)

/-- The word for numbers without bound. -/
def infinityWord : List Char := "Infinity".toList

/-- The longest decimal number at the start of a text. -/
def readSigned? (chars : List Char) : Option (Number × List Char) :=
  -- The sign also goes before the word for infinity.
  let (isNegative, rest) := match chars with
    | '-' :: rest => (true, rest)
    | '+' :: rest => (false, rest)
    | _ => (false, chars)
  let signed (found : Number × List Char) : Number × List Char :=
    (if isNegative then found.1.negate else found.1, found.2)
  if infinityWord.isPrefixOf rest then some (signed (.infinity, rest.drop infinityWord.length))
  else (readMagnitude? rest).map signed

/-- The number that digits of a base write, when they are all there is. -/
def numberInBase (base : Nat) (digits : List Char) : Number :=
  -- Anything else is no number.
  if digits.isEmpty || !digits.all (fun digit => (digitOf? digit).any (· < base)) then
    .undefinedResult
  else .ofNat (valueInBase base digits)

/-- The number that a whole text writes, blanks around it aside. -/
def numberOfText (units : Units) : Number :=
  -- An empty text is zero.
  match (trimEnd (trimStart units)).toChars? with
  | none => .undefinedResult
  | some [] => .whole 0
  | some ('0' :: 'x' :: digits) => numberInBase 16 digits
  | some ('0' :: 'X' :: digits) => numberInBase 16 digits
  | some ('0' :: 'o' :: digits) => numberInBase 8 digits
  | some ('0' :: 'O' :: digits) => numberInBase 8 digits
  | some ('0' :: 'b' :: digits) => numberInBase 2 digits
  | some ('0' :: 'B' :: digits) => numberInBase 2 digits
  | some chars =>
    match readSigned? chars with
    | some (number, []) => number
    | _ => .undefinedResult

/-- The truth of a value. -/
def truth : Value → Bool
  | .undefined => false
  | .null => false
  | .boolean value => value
  | .number value => !(value.isZero || value.isUndefinedResult)
  | .text units => !units.isEmpty
  | .object _ => true

/-- A text as a value. -/
def textValue (text : String) : Value := .text (Units.ofString text)

/-- The type of a value as a word. -/
def typeWord (value : Value) : Run String := do
  -- Functions are told apart from other objects.
  match value with
  | .undefined => return "undefined"
  | .null => return "object"
  | .boolean _ => return "boolean"
  | .number _ => return "number"
  | .text _ => return "string"
  | .object _ => return if ← isCallable value then "function" else "object"

/-- What an object is converted to when either would do. -/
inductive Preference where
  | text
  | number
  deriving DecidableEq

/-- The name of the method that shows a value as a text. -/
def toStringKey : Units := Units.ofString "toString"

/-- The name of the method that gives the value of an object. -/
def valueOfKey : Units := Units.ofString "valueOf"

namespace Interpreter

/-- The value other than an object that the first helpful method of an object gives. -/
def tryMethods (self : Interpreter) (value : Value) : List Units → Run Value
  | [] => Run.failType "cannot convert object to primitive value"
  | key :: rest => do
    let method ← self.read value key
    if ← isCallable method then
      match ← self.call method value [] with
      | .object _ => tryMethods self value rest
      | found => return found
    else tryMethods self value rest

/-- A value that is no object. -/
def toPrimitive (self : Interpreter) (value : Value) (preference : Preference) : Run Value :=
  -- The preference decides which method is tried first.
  match value with
  | .object _ =>
    match preference with
    | .text => self.tryMethods value [toStringKey, valueOfKey]
    | .number => self.tryMethods value [valueOfKey, toStringKey]
  | other => return other

/-- A value that is no object, in a place that prefers numbers, where points in time prefer texts. -/
def toOperand (self : Interpreter) (value : Value) : Run Value := do
  -- Points in time are the one exception.
  match value with
  | .object address =>
    match (← Run.object address).kind with
    | .moment _ => self.toPrimitive value .text
    | _ => self.toPrimitive value .number
  | other => return other

end Interpreter

/-- The number that a value other than an object stands for. -/
def primitiveNumber : Value → Number
  | .undefined => .undefinedResult
  | .null => .whole 0
  | .boolean value => .whole (if value then 1 else 0)
  | .number value => value
  | .text units => numberOfText units
  | .object _ => .undefinedResult

/-- The text that a value other than an object stands for. -/
def primitiveText : Value → Units
  | .undefined => Units.ofString "undefined"
  | .null => Units.ofString "null"
  | .boolean value => Units.ofString (if value then "true" else "false")
  | .number value => value.units
  | .text units => units
  | .object _ => []

namespace Interpreter

/-- The number that a value stands for. -/
def toNumber (self : Interpreter) (value : Value) : Run Number := do
  -- Objects are converted first.
  return primitiveNumber (← self.toPrimitive value .number)

/-- The text that a value stands for. -/
def toText (self : Interpreter) (value : Value) : Run Units := do
  -- Objects are converted first.
  return primitiveText (← self.toPrimitive value .text)

/-- The whole number that a value stands for, and none for an infinite one with its sign aside. -/
def toWhole (self : Interpreter) (value : Value) : Run (Option Int × Bool) := do
  -- The flag tells whether the number is negative.
  let number ← self.toNumber value
  return (number.wholeOrInfinite, number.less (.whole 0))

/-- A position in a sequence of a length, where negative ones count from the end. -/
def toPosition (self : Interpreter) (value : Value) (length : Nat) : Run Nat := do
  -- The result is kept within the sequence.
  match ← self.toWhole value with
  | (some whole, _) =>
    return if whole < 0 then (length + whole).toNat else min whole.toNat length
  | (none, isNegative) => return if isNegative then 0 else length

/-- A position in a sequence, with the end standing in for undefined. -/
def toEnd (self : Interpreter) (value : Value) (length : Nat) : Run Nat :=
  -- A missing end is the end of the sequence.
  match value with
  | .undefined => return length
  | other => self.toPosition other length

/-- A length, which is never negative. -/
def toLength (self : Interpreter) (value : Value) : Run Nat := do
  -- Lengths stay within the exact whole numbers.
  match ← self.toWhole value with
  | (some whole, _) => return min whole.toNat (Number.wholeLimit - 1)
  | (none, isNegative) => return if isNegative then 0 else Number.wholeLimit - 1

/-- The number of items of an object that is used like a list. -/
def lengthOf (self : Interpreter) (value : Value) : Run Nat := do
  -- Lists know their length.
  let known ← match value with
    | .object address =>
      match (← Run.object address).kind with
      | .list _ length _ => pure (some length)
      | _ => pure none
    | _ => pure none
  match known with
  | some length => return length
  | none => self.toLength (← self.read value lengthKey)

end Interpreter

/-- The object that a value is used as. -/
def toObject (value : Value) : Run Address :=
  -- Values other than objects are wrapped.
  match value with
  | .undefined => Run.failMissing
  | .null => Run.failMissing
  | .boolean _ => Run.make (ObjectRecord.bare (.wrapper value) .booleanPrototype)
  | .number _ => Run.make (ObjectRecord.bare (.wrapper value) .numberPrototype)
  | .text _ => Run.make (ObjectRecord.bare (.wrapper value) .textPrototype)
  | .object address => return address

/-- The value that a wrapper holds, and any other value itself. -/
def unwrap (value : Value) : Run Value := do
  -- One layer is taken off.
  match value with
  | .object address =>
    match (← Run.object address).kind with
    | .wrapper content => return content
    | _ => return value
  | other => return other

end Script

end PipelineTrial
