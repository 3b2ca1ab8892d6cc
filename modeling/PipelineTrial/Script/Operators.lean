import PipelineTrial.Script.Conversion

/-! The operators of scripts on values. -/

namespace PipelineTrial

namespace Script

/-- Whether two values are equal without any conversion. -/
def strictlyEqual : Value → Value → Bool
  | .undefined, .undefined => true
  | .null, .null => true
  | .boolean left, .boolean right => left == right
  | .number left, .number right => left.equals right
  | .text left, .text right => left == right
  | .object left, .object right => left == right
  | _, _ => false

/-- Whether two values cannot be told apart. -/
def sameValue : Value → Value → Bool
  | .number left, .number right => left.sameValue right
  | left, right => strictlyEqual left right

/-- Whether two values cannot be told apart but by the sign of zero. -/
def sameValueZero : Value → Value → Bool
  | .number left, .number right => left.sameValue right || left.equals right
  | left, right => strictlyEqual left right

/-- Whether a value is missing. -/
def isMissing : Value → Bool
  | .undefined => true
  | .null => true
  | _ => false

/-- Whether two values other than objects are equal after conversion. -/
def primitivesEqual : Value → Value → Bool
  | .undefined, .null => true
  | .null, .undefined => true
  | left, right =>
    if isMissing left || isMissing right then strictlyEqual left right
    else
      match left, right with
      | .text leftUnits, .text rightUnits => leftUnits == rightUnits
      | _, _ => (primitiveNumber left).equals (primitiveNumber right)

/-- How two texts or numbers compare; no result compares with nothing. -/
inductive Comparison where
  | below
  | notBelow
  | undefinedResult
  deriving DecidableEq

/-- Whether a value other than an object is below another one. -/
def compareValues (left right : Value) : Comparison :=
  -- Only two texts compare as texts.
  match left, right with
  | .text leftUnits, .text rightUnits =>
    if leftUnits.before rightUnits then .below else .notBelow
  | _, _ =>
    let leftNumber := primitiveNumber left
    let rightNumber := primitiveNumber right
    if leftNumber.isUndefinedResult || rightNumber.isUndefinedResult then .undefinedResult
    else if leftNumber.less rightNumber then .below
    else .notBelow

/-- The sum of two values other than objects: a text when one of them is a text. -/
def addValues (left right : Value) : Value :=
  -- Otherwise both count as numbers.
  match left, right with
  | .text leftUnits, other => .text (leftUnits ++ primitiveText other)
  | other, .text rightUnits => .text (primitiveText other ++ rightUnits)
  | _, _ => .number ((primitiveNumber left).add (primitiveNumber right))

/-- The result of an operator on numbers. -/
def onNumbers (operator : BinaryOperator) (left right : Number) : Number :=
  -- Shifts take the lowest five bits of their second operand.
  match operator with
  | .subtract => left.subtract right
  | .multiply => left.multiply right
  | .divide => left.divide right
  | .remainder => left.remainder right
  | .power => left.power right
  | .shiftLeft => .ofSigned32 (left.toBits32 <<< (right.toBits32 % 32))
  | .shiftRight =>
    .whole ((Number.ofSigned32 left.toBits32).truncated >>> (right.toBits32 % 32).toNat)
  | .shiftRightUnsigned => .ofUnsigned32 (left.toBits32 >>> (right.toBits32 % 32))
  | .bitAnd => .ofSigned32 (left.toBits32 &&& right.toBits32)
  | .bitOr => .ofSigned32 (left.toBits32 ||| right.toBits32)
  | .bitXor => .ofSigned32 (left.toBits32 ^^^ right.toBits32)
  | _ => left.add right

namespace Interpreter

/-- Whether two values are equal after conversion. -/
def looselyEqual (self : Interpreter) (left right : Value) : Run Bool := do
  -- Objects are converted only against other types, and never equal a missing value.
  match left, right with
  | .object leftAddress, .object rightAddress => return leftAddress == rightAddress
  | .object _, other =>
    if isMissing other then return false
    else return primitivesEqual (← self.toOperand left) other
  | other, .object _ =>
    if isMissing other then return false
    else return primitivesEqual other (← self.toOperand right)
  | _, _ => return primitivesEqual left right

/-- Whether one value is below another; the left operand is converted first either way. -/
def isBelow (self : Interpreter) (left right : Value) (isSwapped : Bool) : Run Comparison := do
  -- A swapped comparison asks whether the right operand is below the left one.
  let leftOperand ← self.toPrimitive left .number
  let rightOperand ← self.toPrimitive right .number
  return if isSwapped then compareValues rightOperand leftOperand
    else compareValues leftOperand rightOperand

/-- The name of a member that a value stands for. -/
def toKey (self : Interpreter) (value : Value) : Run Units :=
  -- Names are texts.
  self.toText value

/-- Whether a value was made by a function. -/
def isInstance (self : Interpreter) (value maker : Value) : Run Bool := do
  -- The function's pattern has to be on the chain of prototypes.
  match maker with
  | .object address =>
    let record ← Run.object address
    if !record.isCallable then
      Run.failType "right-hand side of 'instanceof' is not callable"
    else
      let maker := match record.kind with
        | .bound target _ _ => target
        | _ => maker
      match value with
      | .object _ =>
        match ← self.read maker prototypeKey with
        | .object pattern => hasPrototype pattern value
        | _ => Run.failType "function has non-object prototype in instanceof check"
      | _ => return false
  | other =>
    let found ← typeWord other
    Run.failType
      ("right-hand side of 'instanceof' should be an object, got \x60" ++ found ++ "\x60")

/-- The result of an operator on two values. -/
def operate (self : Interpreter) (operator : BinaryOperator) (left right : Value) : Run Value := do
  -- Two numbers need no conversion.
  let truthOf (answer : Bool) : Value := .boolean answer
  match operator with
  | .add =>
    match left, right with
    | .number leftNumber, .number rightNumber => return .number (leftNumber.add rightNumber)
    | _, _ =>
      let leftOperand ← self.toOperand left
      let rightOperand ← self.toOperand right
      return addValues leftOperand rightOperand
  | .less => return truthOf ((← self.isBelow left right false) == .below)
  | .greater => return truthOf ((← self.isBelow left right true) == .below)
  | .lessEqual => return truthOf ((← self.isBelow left right true) == .notBelow)
  | .greaterEqual => return truthOf ((← self.isBelow left right false) == .notBelow)
  | .looseEqual => return truthOf (← self.looselyEqual left right)
  | .looseUnequal => return truthOf (!(← self.looselyEqual left right))
  | .strictEqual => return truthOf (strictlyEqual left right)
  | .strictUnequal => return truthOf (!strictlyEqual left right)
  | .memberOf =>
    match right with
    | .object address => return truthOf (← hasMember address (← self.toKey left))
    | other =>
      let found ← typeWord other
      Run.failType ("right-hand side of 'in' should be an object, got \x60" ++ found ++ "\x60")
  | .instanceOf => return truthOf (← self.isInstance left right)
  | _ =>
    let leftNumber ← self.toNumber left
    let rightNumber ← self.toNumber right
    return .number (onNumbers operator leftNumber rightNumber)

end Interpreter

end Script

end PipelineTrial
