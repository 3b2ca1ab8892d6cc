import PipelineTrial.Script.Binding

/-! Evaluating expressions. -/

namespace PipelineTrial

namespace Script

/-- The functions of an own property that is computed, none for any other property. -/
def computedParts : Option Property → Option Value × Option Value
  | some ⟨.computed getter setter, _, _⟩ => (getter, setter)
  | _ => (none, none)

/-- Sets a getter or setter of an object, keeping the other one. -/
def defineAccessor (address : Address) (key : Units) (isGetter : Bool) (function : Value) :
    Run Unit := do
  -- A stored value is replaced.
  let (getter, setter) := computedParts ((← Run.object address).own? key)
  let slot := if isGetter then Slot.computed (some function) setter
    else Slot.computed getter (some function)
  Run.alter address (·.put key ⟨slot, true, true⟩)

/-- Sets the prototype of a new object, unless the value is no prototype. -/
def adoptPrototype (address : Address) (content : Value) : Run Unit :=
  -- Null leaves the object without one.
  match content with
  | .object prototype => Run.alter address fun record => { record with prototype := some prototype }
  | .null => Run.alter address fun record => { record with prototype := none }
  | _ => return ()

namespace Interpreter

/-- The value of an expression, where a function without a name shows the name it is given to. -/
def evaluateAs (self : Interpreter) (surrounding : Surrounding) (shown : Units)
    (expression : Expression) : Run Value :=
  -- Only functions show names.
  match expression with
  | .function code =>
    match code.name with
    | none => makeClosure surrounding code shown
    | some _ => self.evaluate surrounding expression
  | _ => self.evaluate surrounding expression

/-- A function that its own code can call by its name. -/
def evaluateFunction (surrounding : Surrounding) (code : FunctionCode) : Run Value := do
  -- The name stands in a scope between the function and its surrounding.
  match code.name with
  | none => makeClosure surrounding code []
  | some name =>
    let scope ← Run.openScope ⟨[], some surrounding.scope, none⟩
    let content ← makeClosure { surrounding with scope } code []
    Run.setName scope name ⟨some content, false⟩
    return content

/-- The values of items, spread ones taken apart; holes are left out. -/
def evaluateItems (self : Interpreter) (surrounding : Surrounding) :
    List Item → Run (List Value)
  | [] => return []
  | .hole :: rest => evaluateItems self surrounding rest
  | .single expression :: rest => do
    let value ← self.evaluate surrounding expression
    let tail ← evaluateItems self surrounding rest
    return value :: tail
  | .spread expression :: rest => do
    let values ← self.itemsOf (← self.evaluate surrounding expression)
    let tail ← evaluateItems self surrounding rest
    return values ++ tail

/-- The places of a list literal: values, and holes without one. -/
def evaluatePlaces (self : Interpreter) (surrounding : Surrounding) :
    List Item → Run (List (Option Value))
  | [] => return []
  | .hole :: rest => do
    let tail ← evaluatePlaces self surrounding rest
    return none :: tail
  | .single expression :: rest => do
    let value ← self.evaluate surrounding expression
    let tail ← evaluatePlaces self surrounding rest
    return some value :: tail
  | .spread expression :: rest => do
    let values ← self.itemsOf (← self.evaluate surrounding expression)
    let tail ← evaluatePlaces self surrounding rest
    return values.map some ++ tail

/-- Defines the members of an object literal in order. -/
def evaluateMembers (self : Interpreter) (surrounding : Surrounding) (address : Address) :
    List Member → Run Unit
  | [] => return ()
  | .spread expression :: rest => do
    let source ← self.evaluate surrounding expression
    match ← self.copyOthers source [] with
    | .object copy =>
      for (key, property) in (← Run.object copy).properties do
        Run.alter address (·.put key property)
    | _ => pure ()
    evaluateMembers self surrounding address rest
  | .named kind name expression setsPrototype :: rest => do
    let key ← self.memberKey surrounding name
    let content ← self.evaluateAs surrounding key expression
    match kind with
    | .value =>
      if setsPrototype then adoptPrototype address content
      else Run.alter address (·.put key (.plain content))
    | .getter => defineAccessor address key true content
    | .setter => defineAccessor address key false content
    evaluateMembers self surrounding address rest

/-- The text of a template's parts after its beginning. -/
def evaluateParts (self : Interpreter) (surrounding : Surrounding) :
    List (Expression × Units) → Run Units
  | [] => return []
  | (expression, following) :: rest => do
    let shown ← self.toText (← self.evaluate surrounding expression)
    let tail ← evaluateParts self surrounding rest
    return shown ++ following ++ tail

/-- A base for an optional member or call, which ends the chain when it is missing. -/
def continueChain (isOptional : Bool) (base : Value) : Run Unit :=
  -- Other members fail later when they are read.
  if isOptional && isMissing base then throw .chainEnd else return ()

/-- The function that a call names, with its receiver. -/
def evaluateCallee (self : Interpreter) (surrounding : Surrounding) (callee : Expression) :
    Run (Value × Value) := do
  -- A member is called on its object.
  match callee with
  | .member object key isOptional =>
    let base ← self.evaluate surrounding object
    continueChain isOptional base
    let function ← self.read base key
    return (function, base)
  | .index object key isOptional =>
    let base ← self.evaluate surrounding object
    continueChain isOptional base
    let place ← self.memberPlace base (← self.evaluate surrounding key)
    let function ← self.readPlace surrounding place
    return (function, base)
  | other =>
    let function ← self.evaluate surrounding other
    return (function, .undefined)

/-- Deletes what an expression names, and tells whether it is gone. -/
def evaluateDelete (self : Interpreter) (surrounding : Surrounding) (target : Expression) :
    Run Bool := do
  -- Names of scopes stay, and the strict rules report what cannot be deleted.
  match target with
  | .name name =>
    match ← placeOf surrounding name with
    | .global _ => deleteMember Intrinsic.global.address (Units.ofString name)
    | .missing => return true
    | _ => return false
  | .member _ _ _ | .index _ _ _ =>
    let (base, key) ← match ← self.placeFor surrounding target with
      | .member base key => pure (base, key)
      | .item base position => pure (base, positionKey position)
      | .name _ => pure (Value.undefined, [])
    let isGone ← deleteMember (← toObject base) key
    if !isGone && surrounding.isStrict then
      Run.failType ("cannot delete non-configurable property: " ++ key.toStringEscaped)
    else return isGone
  | other =>
    let _ ← self.evaluate surrounding other
    return true

/-- Adds a difference to the number at a place. -/
def evaluateUpdate (self : Interpreter) (surrounding : Surrounding) (difference : Number)
    (givesNew : Bool) (target : Expression) : Run Value := do
  -- The old value is a number before anything is added.
  let place ← self.placeFor surrounding target
  let old ← self.toNumber (← self.readPlace surrounding place)
  let new := old.add difference
  self.writePlace surrounding (.number new) place
  return .number (if givesNew then new else old)

/-- Whether a logical operator goes on to its second operand. -/
def goesOn (operator : LogicalOperator) (left : Value) : Bool :=
  -- Each operator keeps a first operand that decides.
  match operator with
  | .conjunction => truth left
  | .disjunction => !truth left
  | .coalesce => isMissing left

/-- The name that a function shows after it is assigned to an expression. -/
def shownName : Pattern → Units
  | .name name => Units.ofString name
  | _ => []

/-- The expression of a place in a pattern. -/
def placeExpression? : Pattern → Option Expression
  | .name name => some (.name name)
  | .reference target => some target
  | _ => none

/-- The value of an assignment. -/
def evaluateAssign (self : Interpreter) (surrounding : Surrounding) (operator : AssignmentOperator)
    (target : Pattern) (expression : Expression) : Run Value := do
  -- A place is found before the value is evaluated, and a pattern is taken apart after.
  match placeExpression? target with
  | none =>
    let content ← self.evaluate surrounding expression
    self.bindPattern surrounding .assigns content target
    return content
  | some targetExpression =>
    let place ← self.placeFor surrounding targetExpression
    match operator with
    | .plain =>
      let content ← self.evaluateAs surrounding (shownName target) expression
      self.writePlace surrounding content place
      return content
    | .compound operator =>
      let old ← self.readPlace surrounding place
      let content ← self.operate operator old (← self.evaluate surrounding expression)
      self.writePlace surrounding content place
      return content
    | .logical operator =>
      let old ← self.readPlace surrounding place
      if goesOn operator old then
        let content ← self.evaluateAs surrounding (shownName target) expression
        self.writePlace surrounding content place
        return content
      else return old

/-- The value of an operator of one operand. -/
def evaluateUnary (self : Interpreter) (surrounding : Surrounding) (operator : UnaryOperator)
    (operand : Expression) : Run Value := do
  -- The type of a name that leads nowhere is known all the same.
  match operator, operand with
  | .typeOf, .name name =>
    match ← placeOf surrounding name with
    | .missing => return textValue "undefined"
    | _ => return textValue (← typeWord (← self.readName surrounding name))
  | _, _ =>
    let value ← self.evaluate surrounding operand
    match operator with
    | .typeOf => return textValue (← typeWord value)
    | .logicalNot => return .boolean (!truth value)
    | .discard => return .undefined
    | .negate => return .number (← self.toNumber value).negate
    | .plus => return .number (← self.toNumber value)
    | .bitwiseNot =>
      return .number (.ofSigned32 ((← self.toNumber value).toBits32 ^^^ 0xffffffff))

/-- The value of an expression. -/
def evaluateRule (self : Interpreter) (surrounding : Surrounding) (expression : Expression) :
    Run Value := do
  -- Each form of expression has its own rule.
  match expression with
  | .number value => return .number value
  | .text units => return .text units
  | .boolean value => return .boolean value
  | .null => return .null
  | .receiver => return surrounding.receiver
  | .name name => self.readName surrounding name
  | .template first parts => return .text (first ++ (← self.evaluateParts surrounding parts))
  | .array items => Run.makeSparse (← self.evaluatePlaces surrounding items).toArray
  | .object members =>
    let address ← Run.make (ObjectRecord.bare .plain .objectPrototype)
    self.evaluateMembers surrounding address members
    return .object address
  | .function code => evaluateFunction surrounding code
  | .member object key isOptional =>
    let base ← self.evaluate surrounding object
    continueChain isOptional base
    self.read base key
  | .index object key isOptional =>
    let base ← self.evaluate surrounding object
    continueChain isOptional base
    let key ← self.evaluate surrounding key
    if isMissing base then Run.failMissing
    else self.readPlace surrounding (← self.memberPlace base key)
  | .call callee arguments isOptional =>
    let (function, receiver) ← self.evaluateCallee surrounding callee
    continueChain isOptional function
    let arguments ← self.evaluateItems surrounding arguments
    self.call function receiver arguments
  | .chain content =>
    tryCatch (self.evaluate surrounding content) fun
      | .chainEnd => return .undefined
      | halt => throw halt
  | .construct callee arguments =>
    let maker ← self.evaluate surrounding callee
    let arguments ← self.evaluateItems surrounding arguments
    self.construct maker arguments
  | .unary operator operand => self.evaluateUnary surrounding operator operand
  | .delete operand => return .boolean (← self.evaluateDelete surrounding operand)
  | .update difference givesNew target => self.evaluateUpdate surrounding difference givesNew target
  | .binary operator left right =>
    let leftValue ← self.evaluate surrounding left
    let rightValue ← self.evaluate surrounding right
    self.operate operator leftValue rightValue
  | .logical operator left right =>
    let value ← self.evaluate surrounding left
    if goesOn operator value then self.evaluate surrounding right else return value
  | .conditional condition consequent alternative =>
    if truth (← self.evaluate surrounding condition) then self.evaluate surrounding consequent
    else self.evaluate surrounding alternative
  | .assign operator target value => self.evaluateAssign surrounding operator target value
  | .sequence first second =>
    let _ ← self.evaluate surrounding first
    self.evaluate surrounding second
  | .pattern body flags =>
    let address ← Run.make { ObjectRecord.bare .pattern .patternPrototype with
      properties := [(Units.ofString "source", .constant (.text body)),
        (Units.ofString "flags", .constant (.text flags)),
        (Units.ofString "lastIndex", ⟨.stored (.number (.whole 0)) true, false, false⟩)] }
    return .object address

end Interpreter

end Script

end PipelineTrial
