import PipelineTrial.Script.Operators
import PipelineTrial.Script.Walk

/-! Ready-made functions and methods for objects of every kind. -/

namespace PipelineTrial

namespace Script

/-- The argument at a position, undefined when there are fewer. -/
def argument (arguments : List Value) (position : Nat) : Value :=
  -- Missing arguments are no errors.
  arguments[position]?.getD .undefined

/-- The object that a value is, if it is one. -/
def objectOf? : Value → Option Address
  | .object address => some address
  | _ => none

/-- The names of listed own properties. -/
def listedKeys (record : ObjectRecord) : List Units :=
  -- The order is that of all own names.
  record.ownKeys.filter fun key => (record.own? key).any (·.isEnumerable)

/-- A property that can no longer be changed or removed, and a frozen one not even assigned to. -/
def Property.protect (property : Property) (isFrozen : Bool) : Property :=
  -- Computed properties hold no value to freeze.
  match property.slot with
  | .stored content isWritable =>
    ⟨.stored content (isWritable && !isFrozen), property.isEnumerable, false⟩
  | slot => ⟨slot, property.isEnumerable, false⟩

/-- An object that cannot be extended and whose properties are protected. -/
def ObjectRecord.protect (record : ObjectRecord) (isFrozen : Bool) : ObjectRecord :=
  -- Items of lists are protected all at once.
  let kind := match record.kind with
    | .list items length protection =>
      .list items length (if isFrozen || protection == .frozen then .frozen else .sealed)
    | other => other
  ⟨kind, record.prototype, record.properties.map fun (key, property) => (key, property.protect isFrozen),
    false⟩

/-- Whether a property is protected. -/
def Property.isProtected (property : Property) (isFrozen : Bool) : Bool :=
  -- A frozen one must not be writable either.
  !property.isConfigurable && match property.slot with
    | .stored _ isWritable => !(isFrozen && isWritable)
    | .computed _ _ => true

/-- Whether an object is protected as a whole. -/
def ObjectRecord.isProtected (record : ObjectRecord) (isFrozen : Bool) : Bool :=
  -- The length of a list counts like any other property.
  !record.isExtensible && record.ownKeys.all fun key =>
    (record.own? key).all (·.isProtected isFrozen)

/-- A property as its description asks for it, the parts that are not given being those it had. -/
structure PropertyDescription where
  content : Option Value
  getter : Option Value
  setter : Option Value
  isWritable : Option Bool
  isEnumerable : Option Bool
  isConfigurable : Option Bool

/-- The slot that a description asks for. -/
def PropertyDescription.slot (description : PropertyDescription) (old : Option Slot) : Slot :=
  -- Getters and setters make a computed slot, and all else a stored one.
  let function? (value : Option Value) (kept : Option Value) : Option Value :=
    match value with
    | none => kept
    | some .undefined => none
    | some other => some other
  if description.getter.isSome || description.setter.isSome then
    match old with
    | some (.computed getter setter) =>
      .computed (function? description.getter getter) (function? description.setter setter)
    | _ => .computed (function? description.getter none) (function? description.setter none)
  else
    match old with
    | some (.stored content isWritable) =>
      .stored (description.content.getD content) (description.isWritable.getD isWritable)
    | some (.computed getter setter) =>
      if description.content.isSome || description.isWritable.isSome then
        .stored (description.content.getD .undefined) (description.isWritable.getD false)
      else .computed getter setter
    | none => .stored (description.content.getD .undefined) (description.isWritable.getD false)

/-- The property that a description asks for. -/
def PropertyDescription.apply (description : PropertyDescription) (old : Option Property) : Property :=
  -- A new property is closed unless it is described as open.
  ⟨description.slot (old.map (·.slot)),
    description.isEnumerable.getD ((old.map (·.isEnumerable)).getD false),
    description.isConfigurable.getD ((old.map (·.isConfigurable)).getD false)⟩

/-- Whether a fixed property may take on a described form. -/
def allowsChange (old wanted : Property) : Bool :=
  -- Only a writable value may change, and writing may be given up.
  wanted == old || match old.slot, wanted.slot with
    | .stored _ true, .stored content isWritable =>
      wanted == { old with slot := .stored content isWritable }
    | _, _ => false

namespace Interpreter

/-- A part of a description, if it is given. -/
def describedPart (self : Interpreter) (description : Value) (name : String) : Run (Option Value) := do
  -- Inherited parts count.
  let key := Units.ofString name
  match description with
  | .object address =>
    if ← hasMember address key then
      let part ← self.read description key
      return some part
    else return none
  | _ => return none

/-- Reads the description of a property. -/
def toDescription (self : Interpreter) (description : Value) : Run PropertyDescription := do
  -- A description is an object.
  if (objectOf? description).isNone then
    Run.failType "Cannot construct a property descriptor from a non-object"
  let isEnumerable ← self.describedPart description "enumerable"
  let isConfigurable ← self.describedPart description "configurable"
  let content ← self.describedPart description "value"
  let isWritable ← self.describedPart description "writable"
  let getter ← self.describedPart description "get"
  let setter ← self.describedPart description "set"
  return ⟨content, getter, setter, isWritable.map truth, isEnumerable.map truth,
    isConfigurable.map truth⟩

/-- Gives an object a described property. -/
def defineDescribed (self : Interpreter) (address : Address) (key : Units) (description : Value) :
    Run Unit := do
  -- A fixed property only accepts what leaves it as it is.
  let description ← self.toDescription description
  let record ← Run.object address
  match record.own? key with
  | none =>
    if record.isExtensible then Run.alter address (·.put key (description.apply none))
    else Run.failType ("cannot define property: " ++ key.toStringEscaped)
  | some old =>
    let wanted := description.apply (some old)
    if old.isConfigurable || allowsChange old wanted then Run.alter address (·.put key wanted)
    else Run.failType ("cannot redefine property: " ++ key.toStringEscaped)

/-- Gives an object all properties that the members of another one describe. -/
def defineAll (self : Interpreter) (address : Address) (descriptions : Value) : Run Unit := do
  -- Only listed members are read.
  let source ← toObject descriptions
  for key in listedKeys (← Run.object source) do
    self.defineDescribed address key (← self.read (.object source) key)

/-- The description of a property as an object. -/
def describe (property : Property) : Run Value :=
  -- Computed properties show their functions.
  let flags := [(Units.ofString "enumerable", Property.plain (.boolean property.isEnumerable)),
    (Units.ofString "configurable", Property.plain (.boolean property.isConfigurable))]
  match property.slot with
  | .stored content isWritable =>
    Run.makeObject ([(Units.ofString "value", Property.plain content),
      (Units.ofString "writable", Property.plain (.boolean isWritable))] ++ flags)
  | .computed getter setter =>
    Run.makeObject ([(Units.ofString "get", Property.plain (getter.getD .undefined)),
      (Units.ofString "set", Property.plain (setter.getD .undefined))] ++ flags)

/-- Sets the prototype of an object, unless that would close a circle. -/
def changePrototype (address : Address) (prototype : Option Address) : Run Unit := do
  -- An object that cannot be extended keeps its prototype.
  let machine ← get
  let record := machine.object address
  if record.prototype == prototype then return ()
  else if !record.isExtensible then Run.failType "cannot set prototype of a non-extensible object"
  else if machine.onChain address (machine.objects.size + 1) prototype then
    Run.failType "cyclic prototype chain"
  else Run.alter address fun record => { record with prototype }

/-- Copies the listed own properties of a value to an object by assignment. -/
def assignFrom (self : Interpreter) (target : Address) (source : Value) : Run Unit := do
  -- Missing values have none.
  if isMissing source then return ()
  else
    let address ← toObject source
    for key in listedKeys (← Run.object address) do
      let content ← self.read (.object address) key
      self.write (.object target) key content true

/-- The names and values of listed own properties. -/
def listedMembers (self : Interpreter) (value : Value) : Run (List (Units × Value)) := do
  -- Values are read in the order of the names.
  let address ← toObject value
  (listedKeys (← Run.object address)).mapM fun key => do
    let content ← self.read (.object address) key
    return (key, content)

/-- A value that may be a prototype: an object or null. -/
def toPrototype (value : Value) : Run (Option Address) :=
  -- Other values are refused.
  match value with
  | .object address => return some address
  | .null => return none
  | _ => Run.failType "Object prototype may only be an Object or null"

/-- Applies a change to an object, and gives back the value either way. -/
def changeObject (value : Value) (change : ObjectRecord → ObjectRecord) : Run Value := do
  -- Values other than objects stay as they are.
  match value with
  | .object address =>
    Run.alter address change
    return value
  | other => return other

/-- Asks a question about an object, which a value other than an object answers by a default. -/
def askObject (value : Value) (question : ObjectRecord → Bool) (otherwise : Bool) : Run Value := do
  -- The object is only read.
  match value with
  | .object address => return .boolean (question (← Run.object address))
  | _ => return .boolean otherwise

/-- A new object out of pairs of names and values. -/
def fromPairs (self : Interpreter) (pairs : List Value) : Run Value := do
  -- The last value of a repeated name wins.
  let target ← Run.makeObject []
  for pair in pairs do
    if (objectOf? pair).isNone then Run.failType "cannot get key and value from primitive item"
    let key ← self.toKey (← self.readAt pair 0)
    defineMember target key (← self.readAt pair 1)
  return target

/-- Runs a function over objects. -/
def runObjectOperation (self : Interpreter) (operation : ObjectOperation) (arguments : List Value) :
    Run Value := do
  -- The first argument is the object in question.
  let first := argument arguments 0
  let second := argument arguments 1
  match operation with
  | .assign =>
    let target ← toObject first
    for source in arguments.drop 1 do
      self.assignFrom target source
    return .object target
  | .create =>
    let prototype ← toPrototype first
    let address ← Run.make { ObjectRecord.bare .plain .objectPrototype with prototype }
    if second != .undefined then self.defineAll address second
    return .object address
  | .defineProperties =>
    match first with
    | .object address =>
      self.defineAll address second
      return first
    | _ => Run.failType "Expected an object"
  | .defineProperty =>
    match first with
    | .object address =>
      let key ← self.toKey second
      self.defineDescribed address key (argument arguments 2)
      return first
    | _ => Run.failType "Object.defineProperty called on non-object"
  | .entries =>
    let members ← self.listedMembers first
    Run.makeList (← members.mapM fun (key, content) => Run.makeList [.text key, content])
  | .values => Run.makeList ((← self.listedMembers first).map (·.2))
  | .keys =>
    let address ← toObject first
    Run.makeList ((listedKeys (← Run.object address)).map .text)
  | .freeze => changeObject first (·.protect true)
  | .seal => changeObject first (·.protect false)
  | .preventExtensions => changeObject first fun record => { record with isExtensible := false }
  | .isFrozen => askObject first (·.isProtected true) true
  | .isSealed => askObject first (·.isProtected false) true
  | .isExtensible => askObject first (·.isExtensible) false
  | .fromEntries =>
    if isMissing first then Run.failMissing else self.fromPairs (← self.itemsOf first)
  | .getOwnPropertyDescriptor =>
    let address ← toObject first
    match (← Run.object address).own? (← self.toKey second) with
    | some property => describe property
    | none => return .undefined
  | .getOwnPropertyDescriptors =>
    let address ← toObject first
    let record ← Run.object address
    let target ← Run.makeObject []
    for key in record.ownKeys do
      match record.own? key with
      | some property => defineMember target key (← describe property)
      | none => pure ()
    return target
  | .getOwnPropertyNames =>
    let address ← toObject first
    Run.makeList ((← Run.object address).ownKeys.map .text)
  | .getOwnPropertySymbols =>
    let _ ← toObject first
    Run.makeList []
  | .getPrototypeOf =>
    if isMissing first then Run.failMissing
    else return ((← prototypeOf first).map Value.object).getD .null
  | .hasOwn =>
    let address ← toObject first
    return .boolean (← Script.hasOwn address (← self.toKey second))
  | .is => return .boolean (sameValue first second)
  | .setPrototypeOf =>
    if isMissing first then Run.failMissing
    else
      let prototype ← toPrototype second
      match first with
      | .object address => changePrototype address prototype
      | _ => pure ()
      return first

/-- The word for what an object is. -/
def kindWord (record : ObjectRecord) : String :=
  -- Functions and some values of the language have words of their own.
  if record.isCallable then "Function"
  else
    match record.kind with
    | .list _ _ _ => "Array"
    | .failure => "Error"
    | .wrapper (.boolean _) => "Boolean"
    | .wrapper (.number _) => "Number"
    | .wrapper (.text _) => "String"
    | .moment _ => "Date"
    | .pattern => "RegExp"
    | .arguments => "Arguments"
    | .walk _ _ _ => "Array Iterator"
    | _ => "Object"

/-- Runs a method of objects. -/
def runObjectMethod (self : Interpreter) (method : ObjectMethod) (receiver : Value)
    (arguments : List Value) : Run Value := do
  -- The receiver is the object in question.
  let first := argument arguments 0
  match method with
  | .hasOwnProperty =>
    let key ← self.toKey first
    return .boolean (← Script.hasOwn (← toObject receiver) key)
  | .isPrototypeOf =>
    match first with
    | .object _ => return .boolean (← hasPrototype (← toObject receiver) first)
    | _ => return .boolean false
  | .propertyIsEnumerable =>
    let key ← self.toKey first
    let record ← Run.object (← toObject receiver)
    return .boolean ((record.own? key).any (·.isEnumerable))
  | .toLocaleString => self.invoke receiver toStringKey []
  | .toString =>
    match receiver with
    | .undefined => return textValue "[object Undefined]"
    | .null => return textValue "[object Null]"
    | other =>
      let record ← Run.object (← toObject other)
      return textValue ("[object " ++ kindWord record ++ "]")
  | .valueOf => return .object (← toObject receiver)
  | .readPrototype => return ((← prototypeOf receiver).map Value.object).getD .null
  | .writePrototype =>
    match receiver, first with
    | .object address, .object prototype => changePrototype address (some prototype)
    | .object address, .null => changePrototype address none
    | _, _ => pure ()
    return .undefined

/-- Runs a method of functions. -/
def runFunctionMethod (self : Interpreter) (method : FunctionMethod) (receiver : Value)
    (arguments : List Value) : Run Value := do
  -- The receiver is the function in question.
  match method with
  | .call => self.call receiver (argument arguments 0) (arguments.drop 1)
  | .apply =>
    let passed ← match argument arguments 1 with
      | .undefined | .null => pure []
      | .object address => do
        let list := Value.object address
        self.listItems list (← self.lengthOf list) 0
      | _ => Run.failType "cannot create list from non-object"
    self.call receiver (argument arguments 0) passed
  | .bind =>
    if ← isCallable receiver then
      let name ← self.toText (← self.read receiver nameKey)
      let bound := arguments.drop 1
      let length := (← self.toNumber (← self.read receiver lengthKey)).truncated - bound.length
      let record := ObjectRecord.bare (.bound receiver (argument arguments 0) bound) .functionPrototype
      let properties := [
        (lengthKey, (⟨.stored (.number (.ofNat length.toNat)) false, false, true⟩ : Property)),
        (nameKey, ⟨.stored (.text (Units.ofString "bound " ++ name)) false, false, true⟩)]
      return .object (← Run.make { record with properties })
    else Run.failCall
  | .toString =>
    let name ← self.toText (← self.read receiver nameKey)
    return .text (Units.ofString "function " ++ name ++ Units.ofString "() \x7b [native code] \x7d")

end Interpreter

/-- The functions over objects by name. -/
def objectOperations : BuiltinTable ObjectOperation :=
  [("assign", 2, .assign), ("create", 2, .create), ("defineProperties", 2, .defineProperties),
    ("defineProperty", 3, .defineProperty), ("entries", 1, .entries), ("freeze", 1, .freeze),
    ("fromEntries", 1, .fromEntries), ("getOwnPropertyDescriptor", 2, .getOwnPropertyDescriptor),
    ("getOwnPropertyDescriptors", 1, .getOwnPropertyDescriptors),
    ("getOwnPropertyNames", 1, .getOwnPropertyNames),
    ("getOwnPropertySymbols", 1, .getOwnPropertySymbols), ("getPrototypeOf", 1, .getPrototypeOf),
    ("hasOwn", 2, .hasOwn), ("is", 2, .is), ("isExtensible", 1, .isExtensible),
    ("isFrozen", 1, .isFrozen), ("isSealed", 1, .isSealed), ("keys", 1, .keys),
    ("preventExtensions", 1, .preventExtensions), ("seal", 1, .seal),
    ("setPrototypeOf", 2, .setPrototypeOf), ("values", 1, .values)]

/-- The methods of objects by name. -/
def objectMethods : BuiltinTable ObjectMethod :=
  [("hasOwnProperty", 1, .hasOwnProperty), ("isPrototypeOf", 1, .isPrototypeOf),
    ("propertyIsEnumerable", 1, .propertyIsEnumerable), ("toLocaleString", 0, .toLocaleString),
    ("toString", 0, .toString), ("valueOf", 0, .valueOf)]

/-- The methods of functions by name. -/
def functionMethods : BuiltinTable FunctionMethod :=
  [("apply", 2, .apply), ("bind", 1, .bind), ("call", 1, .call), ("toString", 0, .toString)]

end Script

end PipelineTrial
