import PipelineTrial.Script.Machine

/-! Objects and their own properties: making, reading, changing and listing them. -/

namespace PipelineTrial

namespace Script

/-- The name of the number of items of a list or units of a text. -/
def lengthKey : Units := Units.ofString "length"

/-- The name of a function's pattern for the objects that it makes. -/
def prototypeKey : Units := Units.ofString "prototype"

/-- The name that leads from a prototype to its maker. -/
def constructorKey : Units := Units.ofString "constructor"

/-- The name under which errors and functions keep their name. -/
def nameKey : Units := Units.ofString "name"

/-- The name under which errors keep their text. -/
def messageKey : Units := Units.ofString "message"

/-- The most items that a list can have. -/
def longestList : Nat := Nat.pow 2 32 - 1

/-- The text of a position. -/
def positionKey (position : Nat) : Units := Units.ofChars (Nat.toDigits 10 position)

/-- The value of a run of decimal digits. -/
def digitsOf? (total : Nat) : Units → Option Nat
  | [] => some total
  | unit :: rest =>
    if 48 ≤ unit && unit ≤ 57 then digitsOf? (total * 10 + (unit.toNat - 48)) rest else none

/-- The position that a name stands for: digits without a leading zero, below the longest list. -/
def positionOf? (key : Units) : Option Nat :=
  -- Zero is the one number that may start with a zero.
  match key with
  | [] => none
  | [48] => some 0
  | 48 :: _ => none
  | _ => (digitsOf? 0 key).filter (· < longestList)

namespace ObjectRecord

/-- An object without anything on it. -/
def bare (kind : ObjectKind) (prototype : Intrinsic) : ObjectRecord :=
  -- It can be extended.
  ⟨kind, some prototype.address, [], true⟩

/-- The property that an item of a list is. -/
def itemProperty (protection : Protection) (content : Value) : Property :=
  -- Protection holds for all items alike.
  ⟨.stored content (protection != .frozen), true, protection == .free⟩

/-- The property that a unit of a wrapped text is. -/
def unitProperty (unit : UInt16) : Property := ⟨.stored (.text [unit]) false, true, false⟩

/-- An own property. -/
def own? (record : ObjectRecord) (key : Units) : Option Property :=
  -- Lists and wrapped texts have items beside their named properties.
  match record.kind with
  | .list items length protection =>
    match positionOf? key with
    | some position => (items[position]?.join).map (itemProperty protection)
    | none =>
      if key == lengthKey then
        some ⟨.stored (.number (.ofNat length)) (protection != .frozen), false, false⟩
      else record.properties.lookup key
  | .wrapper (.text units) =>
    match positionOf? key with
    | some position => (units[position]?.map unitProperty).or (record.properties.lookup key)
    | none =>
      if key == lengthKey then some (.constant (.number (.ofNat units.length)))
      else record.properties.lookup key
  | _ => record.properties.lookup key

/-- Properties with one put in the place of its name, or at the end. -/
def putProperty (key : Units) (property : Property) :
    List (Units × Property) → List (Units × Property)
  | [] => [(key, property)]
  | (found, old) :: rest =>
    if found == key then (key, property) :: rest else (found, old) :: putProperty key property rest

/-- The content of a property, of which computed ones have none. -/
def storedContent (property : Property) : Value :=
  -- Items of lists are always stored.
  match property.slot with
  | .stored content _ => content
  | .computed _ _ => .undefined

/-- Items with one put at a position, and holes before it where there was nothing. -/
def putItem (items : Array (Option Value)) (position : Nat) (content : Value) :
    Array (Option Value) :=
  -- Existing places are reused.
  if position < items.size then items.setIfInBounds position (some content)
  else (items ++ Array.replicate (position - items.size) none).push (some content)

/-- The object with an own property put in place, whatever was there. -/
def put (record : ObjectRecord) (key : Units) (property : Property) : ObjectRecord :=
  -- Items of lists are kept apart from named properties.
  match record with
  | ⟨.list items length protection, prototype, properties, isExtensible⟩ =>
    match positionOf? key with
    | some position =>
      ⟨.list (putItem items position (storedContent property)) (max length (position + 1)) protection,
        prototype, properties, isExtensible⟩
    | none =>
      ⟨.list items length protection, prototype, putProperty key property properties, isExtensible⟩
  | ⟨kind, prototype, properties, isExtensible⟩ =>
    ⟨kind, prototype, putProperty key property properties, isExtensible⟩

/-- The object without an own property. -/
def drop (record : ObjectRecord) (key : Units) : ObjectRecord :=
  -- A dropped item leaves a hole.
  match record with
  | ⟨.list items length protection, prototype, properties, isExtensible⟩ =>
    match positionOf? key with
    | some position =>
      ⟨.list (items.setIfInBounds position none) length protection, prototype, properties,
        isExtensible⟩
    | none =>
      ⟨.list items length protection, prototype, properties.filter (·.1 != key), isExtensible⟩
  | ⟨kind, prototype, properties, isExtensible⟩ =>
    ⟨kind, prototype, properties.filter (·.1 != key), isExtensible⟩

/-- The positions at which a list has items, from a position on. -/
def itemKeys (position : Nat) : List (Option Value) → List Units
  | [] => []
  | some _ :: rest => positionKey position :: itemKeys (position + 1) rest
  | none :: rest => itemKeys (position + 1) rest

/-- Names in the order of listing: positions by value, then all others as they were made. -/
def listedOrder (keys : List Units) : List Units :=
  -- Positions have at most ten digits and compare as numbers.
  let positions := keys.filter fun key => (positionOf? key).isSome
  let others := keys.filter fun key => (positionOf? key).isNone
  positions.mergeSort (fun left right =>
    (positionOf? left).getD 0 ≤ (positionOf? right).getD 0) ++ others

/-- The names of all own properties, in the order of listing. -/
def ownKeys (record : ObjectRecord) : List Units :=
  -- Items come first, then the length, then named properties.
  let named := listedOrder (record.properties.map (·.1))
  match record.kind with
  | .list items _ _ => itemKeys 0 items.toList ++ lengthKey :: named
  | .wrapper (.text units) => (List.range units.length).map positionKey ++ lengthKey :: named
  | _ => named

end ObjectRecord

namespace Machine

/-- The object at an address. -/
def object (machine : Machine) (address : Address) : ObjectRecord :=
  -- Addresses come from making objects.
  machine.objects[address]?.getD default

/-- The property that a name leads to, along the chain of prototypes. -/
def find? (machine : Machine) (key : Units) : Nat → Address → Option Property
  | 0, _ => none
  | bound + 1, address =>
    let record := machine.object address
    match record.own? key with
    | some property => some property
    | none =>
      match record.prototype with
      | some prototype => find? machine key bound prototype
      | none => none

/-- The property that a name leads to from an object on. -/
def lookup? (machine : Machine) (address : Address) (key : Units) : Option Property :=
  -- A chain never visits an object twice.
  machine.find? key machine.objects.size address

/-- Whether an object is on the chain of prototypes that starts at another. -/
def onChain (machine : Machine) (wanted : Address) : Nat → Option Address → Bool
  | 0, _ => false
  | _, none => false
  | bound + 1, some address =>
    address == wanted || onChain machine wanted bound (machine.object address).prototype

end Machine

namespace Run

/-- The object at an address. -/
def object (address : Address) : Run ObjectRecord := do
  -- The state is only read.
  return (← get).object address

/-- Changes the object at an address. -/
def alter (address : Address) (change : ObjectRecord → ObjectRecord) : Run Unit :=
  -- All other objects stay.
  modify fun machine => { machine with objects := machine.objects.modify address change }

/-- Makes an object. -/
def make (record : ObjectRecord) : Run Address :=
  -- Addresses count up.
  modifyGet fun machine =>
    (machine.objects.size, { machine with objects := machine.objects.push record })

/-- Makes a plain object with properties. -/
def makeObject (properties : List (Units × Property)) : Run Value := do
  -- The properties must have different names.
  let address ← make { ObjectRecord.bare .plain .objectPrototype with properties }
  return .object address

/-- Makes a list whose items may be missing. -/
def makeSparse (items : Array (Option Value)) : Run Value := do
  -- Its length is the number of places.
  let address ← make (ObjectRecord.bare (.list items items.size .free) .listPrototype)
  return .object address

/-- Makes a list of items. -/
def makeList (items : List Value) : Run Value :=
  -- No item is missing.
  makeSparse (items.map some).toArray

/-- Throws a value. -/
def throwValue {α : Type} (value : Value) : Run α := throw (.thrown value)

/-- Makes an error. -/
def makeFailure (kind : ErrorKind) (message : String) : Run Value := do
  -- Its text is a hidden property.
  let record := ObjectRecord.bare .failure (Intrinsic.ofErrorKind kind)
  let address ← make { record with
    properties := [(messageKey, .hidden (.text (Units.ofString message)))] }
  return .object address

/-- Throws an error. -/
def fail {α : Type} (kind : ErrorKind) (message : String) : Run α := do
  -- The error is made where it is thrown.
  throwValue (← makeFailure kind message)

/-- Throws an error about the type of a value. -/
def failType {α : Type} (message : String) : Run α := fail .typeError message

/-- Throws the error for a missing value used as an object. -/
def failMissing {α : Type} : Run α := failType "cannot convert 'null' or 'undefined' to object"

/-- Throws the error for a call of something else than a function. -/
def failCall {α : Type} : Run α := failType "not a callable function"

end Run

end Script

end PipelineTrial
