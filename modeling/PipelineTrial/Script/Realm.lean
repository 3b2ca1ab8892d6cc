import PipelineTrial.Script.Library.Failures
import PipelineTrial.Script.Library.Json
import PipelineTrial.Script.Library.Moments
import PipelineTrial.Script.Library.Numbers
import PipelineTrial.Script.Library.Texts

/-! The objects that a script finds when it starts: the allowed globals and what they lead to. -/

namespace PipelineTrial

namespace Script

/-- The objects made so far, in the order of their addresses. -/
abbrev Building := StateM (Array ObjectRecord)

namespace Building

/-- Adds an object. -/
def add (record : ObjectRecord) : Building Address :=
  -- Addresses count up.
  modifyGet fun objects => (objects.size, objects.push record)

/-- Puts a property on an object. -/
def put (address : Address) (name : String) (property : Property) : Building Unit :=
  -- All other objects stay.
  modify fun objects => objects.modify address (·.put (Units.ofString name) property)

/-- Makes a ready-made function. -/
def addFunction (name : String) (parameters : Nat) (builtin : Builtin) : Building Address :=
  -- It shows its name and its number of parameters.
  let properties := [
    (lengthKey, (⟨.stored (.number (.ofNat parameters)) false, false, true⟩ : Property)),
    (nameKey, ⟨.stored (.text (Units.ofString name)) false, false, true⟩)]
  add { ObjectRecord.bare (.builtin builtin) .functionPrototype with properties }

/-- Puts ready-made functions on an object. -/
def putTable {α : Type} (owner : Address) (builtin : α → Builtin) (table : BuiltinTable α) :
    Building Unit := do
  -- Each function is an object of its own.
  for (name, parameters, entry) in table do
    let function ← addFunction name parameters (builtin entry)
    put owner name (.hidden (.object function))

/-- Makes a function for objects with a given prototype. -/
def addMaker (name : String) (parameters : Nat) (maker : Maker) (prototype : Intrinsic) :
    Building Address := do
  -- Maker and prototype lead to each other.
  let function ← addFunction name parameters (.maker maker)
  put function "prototype" (.constant (.object prototype.address))
  put prototype.address "constructor" (.hidden (.object function))
  return function

/-- Makes a global maker of objects. -/
def putMaker (name : String) (parameters : Nat) (maker : Maker) (prototype : Intrinsic) :
    Building Address := do
  -- The global object leads to it.
  let function ← addMaker name parameters maker prototype
  put Intrinsic.global.address name (.hidden (.object function))
  return function

/-- Makes a kind of errors, which is a kind of the plain ones. -/
def addErrors (kind : ErrorKind) : Building Address := do
  -- Prototypes hold the name and an empty text.
  let prototype := Intrinsic.ofErrorKind kind
  let maker ← addMaker kind.name 1 (.failure kind) prototype
  put prototype.address "name" (.hidden (textValue kind.name))
  put prototype.address "message" (.hidden (textValue ""))
  return maker

/-- The prototype of an intrinsic object, which is none only for the prototype of all objects. -/
def prototypeFor : Intrinsic → Option Address
  | .objectPrototype => none
  | .typeErrorPrototype => some Intrinsic.errorPrototype.address
  | .rangeErrorPrototype => some Intrinsic.errorPrototype.address
  | .referenceErrorPrototype => some Intrinsic.errorPrototype.address
  | .syntaxErrorPrototype => some Intrinsic.errorPrototype.address
  | _ => some Intrinsic.objectPrototype.address

/-- Adds the intrinsic objects, so that each one stands at its address. -/
def addIntrinsics : Building Unit := do
  -- The prototype of lists is itself a list.
  for intrinsic in Intrinsic.all do
    let kind := match intrinsic with
      | .listPrototype => ObjectKind.list #[] 0 .free
      | _ => .plain
    let _ ← add ⟨kind, prototypeFor intrinsic, [], true⟩

/-- Fills in objects and functions in general. -/
def fillObjects : Building Unit := do
  -- A pair of functions reads and writes the prototype of any object.
  let maker ← putMaker "Object" 1 .object .objectPrototype
  putTable maker .objectOperation objectOperations
  putTable Intrinsic.objectPrototype.address .objectMethod objectMethods
  let getter ← addFunction "get __proto__" 0 (.objectMethod .readPrototype)
  let setter ← addFunction "set __proto__" 1 (.objectMethod .writePrototype)
  put Intrinsic.objectPrototype.address "__proto__"
    ⟨.computed (some (.object getter)) (some (.object setter)), false, true⟩
  let _ ← addMaker "Function" 1 .function .functionPrototype
  putTable Intrinsic.functionPrototype.address .functionMethod functionMethods

/-- Fills in lists and texts. -/
def fillSequences : Building Unit := do
  -- Walks have no maker.
  let listMaker ← putMaker "Array" 1 .list .listPrototype
  putTable listMaker .listOperation listOperations
  putTable Intrinsic.listPrototype.address .listMethod listMethods
  putTable Intrinsic.walkPrototype.address .walkMethod walkMethods
  let textMaker ← putMaker "String" 1 .text .textPrototype
  putTable textMaker .textOperation textOperations
  putTable Intrinsic.textPrototype.address .textMethod textMethods

/-- Puts constant numbers on an object. -/
def putConstants (owner : Address) (constants : List (String × Number)) : Building Unit := do
  -- They cannot be changed.
  for (name, number) in constants do
    put owner name (.constant (.number number))

/-- Fills in numbers, booleans and arithmetic. -/
def fillNumbers : Building Unit := do
  -- Two readers of numbers are global and members of the maker of numbers alike.
  let maker ← putMaker "Number" 1 .number .numberPrototype
  putTable maker .numberOperation numberOperations
  putTable Intrinsic.numberPrototype.address .numberMethod numberMethods
  putConstants maker numberConstants
  for (name, parameters, operation) in globalOperations do
    let function ← addFunction name parameters (.globalOperation operation)
    put Intrinsic.global.address name (.hidden (.object function))
    if operation == .parseFloat || operation == .parseInt then
      put maker name (.hidden (.object function))
  let _ ← putMaker "Boolean" 1 .boolean .booleanPrototype
  putTable Intrinsic.booleanPrototype.address .booleanMethod booleanMethods
  let math ← add (ObjectRecord.bare .plain .objectPrototype)
  putTable math .mathOperation mathOperations
  putConstants math mathConstants
  put Intrinsic.global.address "Math" (.hidden (.object math))

/-- Fills in written forms, errors, points in time and patterns. -/
def fillOthers : Building Unit := do
  -- Only three kinds of errors are global.
  let json ← add (ObjectRecord.bare .plain .objectPrototype)
  putTable json .jsonOperation jsonOperations
  put Intrinsic.global.address "JSON" (.hidden (.object json))
  for kind in [ErrorKind.plain, .typeError, .rangeError] do
    let maker ← addErrors kind
    put Intrinsic.global.address kind.name (.hidden (.object maker))
  for kind in [ErrorKind.referenceError, .syntaxError] do
    let _ ← addErrors kind
  putTable Intrinsic.errorPrototype.address .failureMethod failureMethods
  let momentMaker ← putMaker "Date" 7 .moment .momentPrototype
  putTable momentMaker .momentOperation momentOperations
  putTable Intrinsic.momentPrototype.address .momentMethod momentMethods
  let _ ← putMaker "RegExp" 2 .pattern .patternPrototype

/-- Fills in the global values that are no functions. -/
def fillGlobal : Building Unit := do
  -- The global object is a member of itself.
  put Intrinsic.global.address "globalThis" (.hidden (.object Intrinsic.global.address))
  put Intrinsic.global.address "Infinity" (.constant (.number .infinity))
  put Intrinsic.global.address "NaN" (.constant (.number .undefinedResult))
  put Intrinsic.global.address "undefined" (.constant .undefined)

/-- Makes all objects that a script finds. -/
def realm : Building Unit := do
  -- Intrinsic objects come first.
  addIntrinsics
  fillGlobal
  fillObjects
  fillSequences
  fillNumbers
  fillOthers

end Building

/-- The objects that a script finds. -/
def startObjects : Array ObjectRecord := (Building.realm.run #[]).2

/-- The state in which a script starts, itself counting as a call under way. -/
def Machine.start (limits : Limits) : Machine :=
  -- The top scope is still empty.
  ⟨startObjects, #[⟨[], none, none⟩], limits, 1, 0⟩

end Script

end PipelineTrial
