import PipelineTrial.Script.Heap

/-! Members of values: reading them along the chain of prototypes, assigning, defining and deleting. -/

namespace PipelineTrial

namespace Script

/-- Whether an object can be called. -/
def ObjectRecord.isCallable (record : ObjectRecord) : Bool :=
  -- Three kinds of objects are functions.
  match record.kind with
  | .closure _ _ _ => true
  | .builtin _ => true
  | .bound _ _ _ => true
  | _ => false

/-- Whether a value can be called. -/
def isCallable (value : Value) : Run Bool := do
  -- Only objects can.
  match value with
  | .object address => return (← Run.object address).isCallable
  | _ => return false

/-- The object on which the members of a value are looked up, and none for a missing value. -/
def membersOf? : Value → Option Address
  | .undefined => none
  | .null => none
  | .boolean _ => some Intrinsic.booleanPrototype.address
  | .number _ => some Intrinsic.numberPrototype.address
  | .text _ => some Intrinsic.textPrototype.address
  | .object address => some address

/-- The member of a text that is not a method: its length or a unit of it. -/
def textMember? (units : Units) (key : Units) : Option Value :=
  -- Positions beyond the end are no members.
  match positionOf? key with
  | some position => (units[position]?).map fun unit => .text [unit]
  | none => if key == lengthKey then some (.number (.ofNat units.length)) else none

namespace Interpreter

/-- The value of a property, for a receiver. -/
def readProperty (self : Interpreter) (receiver : Value) (property : Option Property) : Run Value :=
  -- A computed property calls its getter.
  match property with
  | none => return .undefined
  | some ⟨.stored content _, _, _⟩ => return content
  | some ⟨.computed none _, _, _⟩ => return .undefined
  | some ⟨.computed (some getter) _, _, _⟩ => self.call getter receiver []

/-- A member of a value. -/
def read (self : Interpreter) (base : Value) (key : Units) : Run Value := do
  -- Texts have members of their own before those of their prototype.
  let found := match base with
    | .text units => textMember? units key
    | _ => none
  match found with
  | some content => return content
  | none =>
    match membersOf? base with
    | none => Run.failMissing
    | some address => self.readProperty base ((← get).lookup? address key)

/-- A member of a value by a position. -/
def readAt (self : Interpreter) (base : Value) (position : Nat) : Run Value := do
  -- Items of lists are found without their name.
  match base with
  | .object address =>
    match ((← get).object address).kind with
    | .list items _ _ =>
      match items[position]? with
      | some (some content) => return content
      | _ => self.read base (positionKey position)
    | _ => self.read base (positionKey position)
  | _ => self.read base (positionKey position)

/-- A method of a value, which has to be a function. -/
def invoke (self : Interpreter) (base : Value) (key : Units) (arguments : List Value) : Run Value := do
  -- The value itself becomes the receiver.
  let method ← self.read base key
  self.call method base arguments

end Interpreter

/-- Whether an object has a member, itself or through its prototypes. -/
def hasMember (address : Address) (key : Units) : Run Bool := do
  -- Its value does not matter.
  return ((← get).lookup? address key).isSome

/-- Whether an object has a member of its own. -/
def hasOwn (address : Address) (key : Units) : Run Bool := do
  -- Prototypes do not count.
  return ((← Run.object address).own? key).isSome

/-- The error for an assignment that has no effect, which only the strict rules report. -/
def refuseAssignment (isStrict : Bool) (key : Units) : Run Unit :=
  -- Otherwise it passes without notice.
  if isStrict then Run.failType ("cannot set non-writable property: " ++ key.toStringEscaped)
  else return ()

/-- The whole number of items that an assigned length stands for. -/
def lengthOf? (number : Number) : Option Nat :=
  -- Fractions, negative numbers and too large ones are none.
  match number with
  | .whole value => if 0 ≤ value && value ≤ longestList then some value.toNat else none
  | .other value => if value == 0.0 then some 0 else none

/-- The list with another length, which drops the items behind it. -/
def ObjectRecord.resize (record : ObjectRecord) (length : Nat) : ObjectRecord :=
  -- Other objects have no such length.
  match record with
  | ⟨.list items _ protection, prototype, properties, isExtensible⟩ =>
    ⟨.list (items.take length) length protection, prototype, properties, isExtensible⟩
  | other => other

/-- Assigns to an own property that is there, keeping how it is listed. -/
def overwrite (address : Address) (key : Units) (property : Property) (content : Value)
    (isWritable isStrict : Bool) : Run Unit :=
  -- A property that is not writable keeps its value.
  if isWritable then
    Run.alter address (·.put key { property with slot := .stored content true })
  else refuseAssignment isStrict key

/-- Adds a property by assignment. -/
def append (address : Address) (key : Units) (content : Value) (isStrict : Bool) : Run Unit := do
  -- The object has to allow it.
  if (← Run.object address).isExtensible then Run.alter address (·.put key (.plain content))
  else refuseAssignment isStrict key

namespace Interpreter

/-- Assigns the length of a list. -/
def assignLength (address : Address) (content : Value) (isStrict : Bool) : Run Unit := do
  -- The list must not be frozen.
  match (← Run.object address).kind, content with
  | .list _ length protection, .number number =>
    match lengthOf? number with
    | none => Run.fail .rangeError "invalid array length"
    | some wanted =>
      if protection == .free || (protection == .sealed && length ≤ wanted) then
        Run.alter address (·.resize wanted)
      else refuseAssignment isStrict lengthKey
  | _, _ => Run.fail .rangeError "invalid array length"

/-- Assigns to a property of an object that was found on it or on a prototype. -/
def assignFound (self : Interpreter) (address : Address) (key : Units) (content : Value)
    (isStrict : Bool) (property : Property) : Run Unit := do
  -- A setter runs on the object, and a stored property moves to it.
  match property.slot with
  | .computed _ none => refuseAssignment isStrict key
  | .computed _ (some setter) =>
    let _ ← self.call setter (.object address) [content]
    return ()
  | .stored _ isWritable =>
    match (← Run.object address).own? key with
    | some own =>
      if key == lengthKey then
        match (← Run.object address).kind with
        | .list _ _ _ => assignLength address content isStrict
        | _ => overwrite address key own content isWritable isStrict
      else overwrite address key own content isWritable isStrict
    | none =>
      if isWritable then append address key content isStrict else refuseAssignment isStrict key

/-- Assigns to a member of an object. -/
def assignMember (self : Interpreter) (address : Address) (key : Units) (content : Value)
    (isStrict : Bool) : Run Unit := do
  -- A member that is nowhere on the chain is added.
  match (← get).lookup? address key with
  | some property => self.assignFound address key content isStrict property
  | none => append address key content isStrict

/-- Assigns to a member of a value. -/
def write (self : Interpreter) (base : Value) (key : Units) (content : Value) (isStrict : Bool) :
    Run Unit := do
  -- Values other than objects only run setters.
  match base with
  | .object address => self.assignMember address key content isStrict
  | other =>
    match membersOf? other with
    | none => Run.failMissing
    | some address =>
      match (← get).lookup? address key with
      | some ⟨.computed _ (some setter), _, _⟩ =>
        let _ ← self.call setter other [content]
        return ()
      | _ => refuseAssignment isStrict key

/-- Assigns to a member of a value by a position. -/
def writeAt (self : Interpreter) (base : Value) (position : Nat) (content : Value)
    (isStrict : Bool) : Run Unit := do
  -- Present items of a list that is not frozen are replaced without their name.
  match base with
  | .object address =>
    let isPlainItem : Bool := match ((← get).object address).kind with
      | .list items _ protection =>
        protection != .frozen && (items[position]?).any Option.isSome
      | _ => false
    if isPlainItem then
      Run.alter address fun
        | ⟨.list items length protection, prototype, properties, isExtensible⟩ =>
          ⟨.list (items.setIfInBounds position (some content)) length protection, prototype,
            properties, isExtensible⟩
        | other => other
    else self.write base (positionKey position) content isStrict
  | _ => self.write base (positionKey position) content isStrict

end Interpreter

/-- Deletes a member of an object, and tells whether it is gone. -/
def deleteMember (address : Address) (key : Units) : Run Bool := do
  -- A member that is not there counts as gone.
  match (← Run.object address).own? key with
  | none => return true
  | some property =>
    if property.isConfigurable then
      Run.alter address (·.drop key)
      return true
    else return false

/-- Puts a plain property on an object, in place of what was there. -/
def defineMember (value : Value) (key : Units) (content : Value) : Run Unit :=
  -- New objects accept every property.
  match value with
  | .object address => Run.alter address (·.put key (.plain content))
  | _ => return ()

/-- Adds an item to the end of a list. -/
def ObjectRecord.pushItem (content : Value) : ObjectRecord → ObjectRecord
  | ⟨.list items length protection, prototype, properties, isExtensible⟩ =>
    ⟨.list (putItem items length content) (length + 1) protection, prototype, properties,
      isExtensible⟩
  | other => other

/-- Drops the last item of a list. -/
def ObjectRecord.popItem : ObjectRecord → ObjectRecord
  | ⟨.list items length protection, prototype, properties, isExtensible⟩ =>
    ⟨.list (if items.size = length then items.pop else items) (length - 1) protection, prototype,
      properties, isExtensible⟩
  | other => other

/-- The prototype of a value. -/
def prototypeOf (value : Value) : Run (Option Address) := do
  -- Only objects have one of their own.
  match value with
  | .object address => return (← Run.object address).prototype
  | other => return membersOf? other

/-- Whether an object is on the chain of prototypes of a value. -/
def hasPrototype (wanted : Address) (value : Value) : Run Bool := do
  -- The value itself does not count.
  match value with
  | .object address =>
    let machine ← get
    return machine.onChain wanted (machine.objects.size + 1) (machine.object address).prototype
  | _ => return false

end Script

end PipelineTrial
