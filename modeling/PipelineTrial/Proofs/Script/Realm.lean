import PipelineTrial.Proofs.Script.Literal
import PipelineTrial.Proofs.Script.Writing

/-! What the sandbox's own code refers to is in its place, and functions can be made and called. -/

namespace PipelineTrial

namespace Script

/-- The value that an object stores under a name of its own. -/
def storedUnder? (objects : Array ObjectRecord) (address : Address) (name : String) : Option Value :=
  -- Computed properties store nothing.
  objects[address]?.bind fun record => (record.own? (Units.ofString name)).bind fun property =>
    match property.slot with
    | .stored content _ => some content
    | .computed _ _ => none

/-- The ready-made function that an object is. -/
def builtinOf? (record : ObjectRecord) : Option Builtin :=
  -- Objects of all other kinds are none.
  match record.kind with
  | .builtin builtin => some builtin
  | _ => none

/-- An object that is a ready-made function is one by its kind. -/
theorem kind_of_builtinOf? {record : ObjectRecord} {builtin : Builtin}
    (isBuiltin : builtinOf? record = some builtin) : record.kind = .builtin builtin := by
  -- The kind decides, and there is one such kind.
  unfold builtinOf? at isBuiltin
  split at isBuiltin
  · next kind =>
    rw [kind]
    exact congrArg ObjectKind.builtin (Option.some.inj isBuiltin)
  · cases isBuiltin

/-- Whether an object is nothing beside its properties. -/
def isPlain (record : ObjectRecord) : Bool :=
  -- Lists, functions and the like are more.
  match record.kind with
  | .plain => true
  | _ => false

/-- What the sandbox's own code refers to is where it should be. -/
structure Furnished (objects : Array ObjectRecord) : Prop where
  global : objects[Intrinsic.global.address]?.map isPlain = some true
  undefined : storedUnder? objects Intrinsic.global.address "undefined" = some .undefined
  writer : ∃ json stringify,
    storedUnder? objects Intrinsic.global.address "JSON" = some (.object json) ∧
      storedUnder? objects json "stringify" = some (.object stringify) ∧
      objects[stringify]?.bind builtinOf? = some (.jsonOperation .stringify)
  objectPrototype : (objects[Intrinsic.objectPrototype.address]?.map fun record =>
    (record.own? toJsonKey, record.prototype)) = some (none, none)
  listPrototype : (objects[Intrinsic.listPrototype.address]?.map fun record =>
    (record.own? toJsonKey, record.prototype)) =
      some (none, some Intrinsic.objectPrototype.address)

/-- A script starts furnished. -/
theorem furnished_start : Furnished startObjects := by
  -- All objects are there to be looked at.
  have facts : startObjects[Intrinsic.global.address]?.map isPlain = some true ∧
      storedUnder? startObjects Intrinsic.global.address "undefined" = some .undefined ∧
      storedUnder? startObjects Intrinsic.global.address "JSON" = some (.object 186) ∧
      storedUnder? startObjects 186 "stringify" = some (.object 188) ∧
      startObjects[188]?.bind builtinOf? = some (.jsonOperation .stringify) ∧
      (startObjects[Intrinsic.objectPrototype.address]?.map fun record =>
        (record.own? toJsonKey, record.prototype)) = some (none, none) ∧
      (startObjects[Intrinsic.listPrototype.address]?.map fun record =>
        (record.own? toJsonKey, record.prototype)) =
          some (none, some Intrinsic.objectPrototype.address) := by
    decide +kernel
  obtain ⟨global, undefined, json, stringify, writer, objectPrototype, listPrototype⟩ := facts
  exact ⟨global, undefined, ⟨186, 188, json, stringify, writer⟩, objectPrototype, listPrototype⟩

/-- What is stored stays stored where nothing changes. -/
theorem storedUnder?_keeps {objects later : Array ObjectRecord} (keeps : Keeps objects later)
    {address : Address} {name : String} {content : Value}
    (stored : storedUnder? objects address name = some content) :
    storedUnder? later address name = some content :=
  keeps.bind_eq stored

/-- What is there stays there where nothing changes. -/
theorem Furnished.keeps {objects later : Array ObjectRecord} (furnished : Furnished objects)
    (keeps : Keeps objects later) : Furnished later where
  global := keeps.map_eq furnished.global
  undefined := storedUnder?_keeps keeps furnished.undefined
  writer := by
    obtain ⟨json, stringify, isJson, isStringify, writes⟩ := furnished.writer
    exact ⟨json, stringify, storedUnder?_keeps keeps isJson, storedUnder?_keeps keeps isStringify,
      keeps.bind_eq writes⟩
  objectPrototype := keeps.map_eq furnished.objectPrototype
  listPrototype := keeps.map_eq furnished.listPrototype

/-- The prototypes of objects and lists have no method that gives what is written in their place. -/
theorem Furnished.silent {machine : Machine} (furnished : Furnished machine.objects) :
    ∀ prototype ∈ [Intrinsic.objectPrototype, .listPrototype], ∀ bound,
      machine.find? toJsonKey bound prototype.address = none := by
  -- The chain from lists goes on to objects and ends there.
  have objects (bound : Nat) :
      machine.find? toJsonKey bound Intrinsic.objectPrototype.address = none := by
    obtain ⟨record, found, same⟩ := Option.map_eq_some_iff.1 furnished.objectPrototype
    obtain ⟨own, prototype⟩ := Prod.mk.inj same
    cases bound with
    | zero => rfl
    | succ bound => simp only [Machine.find?, object_of_found found, own, prototype]
  have lists (bound : Nat) : machine.find? toJsonKey bound Intrinsic.listPrototype.address = none := by
    obtain ⟨record, found, same⟩ := Option.map_eq_some_iff.1 furnished.listPrototype
    obtain ⟨own, prototype⟩ := Prod.mk.inj same
    cases bound with
    | zero => rfl
    | succ bound => simp only [Machine.find?, object_of_found found, own, prototype, objects bound]
  simpa using ⟨objects, lists⟩

/-- A name that an object stores a value under leads to that value. -/
theorem lookup?_of_stored {machine : Machine} {address : Address} {name : String} {content : Value}
    (stored : storedUnder? machine.objects address name = some content) :
    ∃ isWritable isEnumerable isConfigurable,
      machine.lookup? address (Units.ofString name) =
        some ⟨.stored content isWritable, isEnumerable, isConfigurable⟩ := by
  -- The object has the property itself, so its prototypes are not asked.
  obtain ⟨record, found, own⟩ := Option.bind_eq_some_iff.1 stored
  obtain ⟨⟨slot, isEnumerable, isConfigurable⟩, isOwn, isStored⟩ := Option.bind_eq_some_iff.1 own
  cases slot with
  -- The property holds the value.
  | stored held isWritable =>
    cases isStored
    exact ⟨isWritable, isEnumerable, isConfigurable, lookup?_of_own found isOwn⟩
  -- A computed property would store nothing.
  | computed getter setter => cases isStored

/-- A member that an object stores is read. -/
theorem read_of_stored {self : Interpreter} {machine : Machine} {address : Address} {name : String}
    {content : Value} (stored : storedUnder? machine.objects address name = some content) :
    self.read (.object address) (Units.ofString name) machine = .ok content machine := by
  -- A stored value is read without a call.
  obtain ⟨isWritable, isEnumerable, isConfigurable, leads⟩ := lookup?_of_stored stored
  rw [read_object, leads]
  rfl

/-- A property that is put in the place of its name is found there, and all others stay. -/
private theorem lookup_putProperty (key other : Units) (property : Property)
    (properties : List (Units × Property)) :
    (ObjectRecord.putProperty key property properties).lookup other =
      if other = key then some property else properties.lookup other := by
  -- By induction on the properties: the new one takes the place of its name, or comes last.
  induction properties with
  | nil =>
    -- Behind all others comes the new one.
    by_cases same : other = key
    · simp [ObjectRecord.putProperty, same]
    · simp [ObjectRecord.putProperty, same, List.lookup_cons, beq_eq_false_iff_ne.2 same]
  | cons first rest ih =>
    obtain ⟨found, old⟩ := first
    by_cases isFirst : found = key
    · -- The first has the name and is replaced.
      subst isFirst
      by_cases same : other = found
      · simp [ObjectRecord.putProperty, same]
      · simp [ObjectRecord.putProperty, same, List.lookup_cons, beq_eq_false_iff_ne.2 same]
    · -- The first has another name and stays.
      by_cases same : other = found
      · subst same
        simp [ObjectRecord.putProperty, isFirst]
      · simp [ObjectRecord.putProperty, isFirst, List.lookup_cons, beq_eq_false_iff_ne.2 same, ih]

/-- A property that is put on a plain object is found under its name, and nothing else changes. -/
theorem put_of_plain {record : ObjectRecord} (plain : isPlain record = true) (key : Units)
    (property : Property) :
    isPlain (record.put key property) = true ∧ ∀ other,
      (record.put key property).own? other = if other = key then some property else record.own? other := by
  -- Only lists keep some properties elsewhere.
  obtain ⟨kind, prototype, properties, isExtensible⟩ := record
  cases kind with
  | plain => exact ⟨rfl, fun other => lookup_putProperty key other property properties⟩
  | _ => cases plain

/-- The objects once the script's function is a member of the global object. -/
def withMain (objects : Array ObjectRecord) (main : Value) : Array ObjectRecord :=
  objects.modify Intrinsic.global.address (·.put (Units.ofString "main") ⟨.stored main true, true, false⟩)

/-- All other objects stay as they are. -/
theorem getElem?_withMain (objects : Array ObjectRecord) (main : Value) {address : Address}
    (isOther : Intrinsic.global.address ≠ address) : (withMain objects main)[address]? = objects[address]? := by
  -- Only the global object is changed.
  rw [withMain, Array.getElem?_modify, if_neg isOther]

/-- What is more than its properties is not the global object. -/
theorem Furnished.ne_global {objects : Array ObjectRecord} (furnished : Furnished objects)
    {address : Address} {record : ObjectRecord} (found : objects[address]? = some record)
    (notPlain : isPlain record = false) : Intrinsic.global.address ≠ address := by
  -- The global object is plain.
  rintro rfl
  obtain ⟨global, isGlobal, plain⟩ := Option.map_eq_some_iff.1 furnished.global
  rw [found] at isGlobal
  cases isGlobal
  rw [notPlain] at plain
  cases plain

/-- What is stored stays stored beside the script's function. -/
theorem storedUnder?_withMain {objects : Array ObjectRecord} (furnished : Furnished objects) (main : Value)
    {address : Address} {name : String} (apart : name ≠ "main") :
    storedUnder? (withMain objects main) address name = storedUnder? objects address name := by
  -- Only one property of one object is put.
  by_cases isGlobal : address = Intrinsic.global.address
  · -- In the global object other names are found as before.
    subst isGlobal
    obtain ⟨record, found, plain⟩ := Option.map_eq_some_iff.1 furnished.global
    have own := (put_of_plain plain (Units.ofString "main") ⟨.stored main true, true, false⟩).2
      (Units.ofString name)
    rw [if_neg (by simpa [Units.ofString_inj] using apart)] at own
    rw [storedUnder?, storedUnder?, withMain, Array.getElem?_modify, if_pos rfl, found, Option.map_some,
      Option.bind_some, Option.bind_some, own]
  · -- Every other object is the same.
    rw [storedUnder?, getElem?_withMain objects main (Ne.symm isGlobal), storedUnder?]

/-- The script's function is found under its name. -/
theorem storedUnder?_main {objects : Array ObjectRecord} (furnished : Furnished objects) (main : Value) :
    storedUnder? (withMain objects main) Intrinsic.global.address "main" = some main := by
  -- The global object is there and plain, so what is put on it is found.
  obtain ⟨record, found, plain⟩ := Option.map_eq_some_iff.1 furnished.global
  have own := (put_of_plain plain (Units.ofString "main") ⟨.stored main true, true, false⟩).2
    (Units.ofString "main")
  rw [if_pos rfl] at own
  rw [storedUnder?, withMain, Array.getElem?_modify, if_pos rfl, found, Option.map_some, Option.bind_some, own]
  rfl

/-- The script's function takes nothing away. -/
theorem Furnished.withMain {objects : Array ObjectRecord} (furnished : Furnished objects) (main : Value) :
    Furnished (withMain objects main) where
  -- The global object stays plain, and no name that is needed is the name of the function.
  global := by
    obtain ⟨record, found, plain⟩ := Option.map_eq_some_iff.1 furnished.global
    rw [Script.withMain, Array.getElem?_modify, if_pos rfl, found]
    exact congrArg some (put_of_plain plain _ _).1
  undefined := by
    rw [storedUnder?_withMain furnished main (by decide)]
    exact furnished.undefined
  writer := by
    obtain ⟨json, stringify, isJson, isStringify, writes⟩ := furnished.writer
    refine ⟨json, stringify, ?_, ?_, ?_⟩
    · rw [storedUnder?_withMain furnished main (by decide)]
      exact isJson
    · rw [storedUnder?_withMain furnished main (by decide)]
      exact isStringify
    · -- The writer is a ready-made function, and so it is not the global object.
      obtain ⟨record, found, isBuiltin⟩ := Option.bind_eq_some_iff.1 writes
      have notPlain : isPlain record = false := by rw [isPlain, kind_of_builtinOf? isBuiltin]
      rw [getElem?_withMain objects main (furnished.ne_global found notPlain)]
      exact writes
  objectPrototype := by
    rw [getElem?_withMain objects main (by decide)]
    exact furnished.objectPrototype
  listPrototype := by
    rw [getElem?_withMain objects main (by decide)]
    exact furnished.listPrototype

/-- An object is a function of a script that was made at its top. -/
def IsClosure (objects : Array ObjectRecord) (address : Address) (code : FunctionCode) : Prop :=
  -- It keeps no receiver.
  ∃ record, objects[address]? = some record ∧ record.kind = .closure code topScope none

/-- A function stays where nothing changes. -/
theorem IsClosure.keeps {objects later : Array ObjectRecord} {address : Address} {code : FunctionCode}
    (isClosure : IsClosure objects address code) (keeps : Keeps objects later) :
    IsClosure later address code := by
  -- The object that it is stays.
  obtain ⟨record, found, kind⟩ := isClosure
  exact ⟨record, keeps.found found, kind⟩

/-- A function stays where it is beside the script's function. -/
theorem IsClosure.withMain {objects : Array ObjectRecord} {address : Address} {code : FunctionCode}
    (isClosure : IsClosure objects address code) (furnished : Furnished objects) (main : Value) :
    IsClosure (withMain objects main) address code := by
  -- The global object is no function.
  obtain ⟨record, found, kind⟩ := isClosure
  have notPlain : isPlain record = false := by rw [isPlain, kind]
  refine ⟨record, ?_, kind⟩
  rw [getElem?_withMain objects main (furnished.ne_global found notPlain)]
  exact found

/-- The object behind all others is changed. -/
theorem modify_pushed (objects : Array ObjectRecord) (record : ObjectRecord)
    (change : ObjectRecord → ObjectRecord) :
    (objects.push record).modify objects.size change = objects.push (change record) := by
  -- The two agree at every place.
  refine Array.ext_getElem? fun address => ?_
  rw [Array.getElem?_modify, Array.getElem?_push, Array.getElem?_push]
  by_cases last : address = objects.size
  · -- The last object is the changed one.
    rw [if_pos last.symm, if_pos last, if_pos last]
    rfl
  · -- Any other is left as it was.
    rw [if_neg (Ne.symm last), if_neg last, if_neg last]

/-- The object behind all others is changed after another one has been made behind it. -/
theorem getElem?_modify_pushed (objects : Array ObjectRecord) (record other : ObjectRecord)
    (change : ObjectRecord → ObjectRecord) :
    (((objects.push record).push other).modify objects.size change)[objects.size]? =
      some (change record) := by
  -- The object behind it does not change where it stands.
  rw [Array.getElem?_modify, if_pos rfl, Array.getElem?_push_lt (by simp), Array.getElem_push_eq]
  rfl

/-- A function is made behind all objects. -/
theorem makeClosure_ok (machine : Machine) (receiver : Value) (isStrict : Bool) (name : Option String)
    (parameters : List PatternItem) (rest : Option Pattern) (body : List Statement)
    (bodyIsStrict : Bool) (shown : Units) :
    ∃ objects,
      makeClosure ⟨topScope, receiver, isStrict⟩
        (.mk name parameters rest body false bodyIsStrict false) shown machine =
        .ok (.object machine.objects.size) { machine with objects } ∧
      Keeps machine.objects objects ∧
      IsClosure objects machine.objects.size (.mk name parameters rest body false bodyIsStrict false) := by
  -- It comes with an object for what it may construct, and is linked with it at last.
  refine ⟨_, rfl, ?_, ?_⟩
  · exact (((Keeps.refl _).push _).push _).modify (Nat.le_refl _) _
  · exact ⟨_, getElem?_modify_pushed _ _ _ _, rfl⟩

namespace Run

/-- A step that gives a value has nothing to be handled. -/
theorem tryCatch_ok {α : Type} {step : Run α} {machine later : Machine} {value : α}
    (gives : step machine = .ok value later) (handle : Halt → Run α) :
    (tryCatch step handle) machine = .ok value later := by
  -- Only a halt is handled.
  simp only [tryCatch, tryCatchThe, MonadExceptOf.tryCatch, EStateM.tryCatch, gives]

/-- A call leaves the counts as they were before it. -/
theorem withinCall_ok {α : Type} {step : Run α} {machine later : Machine} {value : α}
    (runs : step { machine with calls := machine.calls + 1, turns := 0 } = .ok value later) :
    Run.withinCall step machine =
      .ok value { later with calls := machine.calls, turns := machine.turns } := by
  -- The counts are set back behind a step that gives a value as behind a halt.
  unfold Run.withinCall
  exact (Run.bind_ok (tryCatch_ok runs _)).trans rfl

/-- Another call may begin while there is room for it. -/
theorem checkCalls_ok {machine : Machine} (room : machine.calls < machine.limits.calls) :
    Run.checkCalls machine = .ok () machine := by
  -- Only a full count halts.
  have isBelow : decide (machine.limits.calls ≤ machine.calls) = false := by simpa using room
  have counted : (modifyGet fun machine : Machine =>
      (decide (machine.limits.calls ≤ machine.calls), machine) : Run Bool) machine =
      .ok (decide (machine.limits.calls ≤ machine.calls)) machine := rfl
  unfold Run.checkCalls
  refine (Run.bind_ok counted).trans ?_
  rw [isBelow]
  rfl

end Run

namespace Interpreter

/-- A function is called while there is room for another call, and the counts are set back. -/
theorem call_closure {levels : Nat} {machine later : Machine} {address : Address} {code : FunctionCode}
    {passed : List Value} {value : Value} (isClosure : IsClosure machine.objects address code)
    (room : machine.calls < machine.limits.calls)
    (runs : (ofDepth levels).callClosure code topScope none .undefined passed
      { machine with calls := machine.calls + 1, turns := 0 } = .ok value later) :
    (ofDepth (levels + 1)).call (.object address) .undefined passed machine =
      .ok value { later with calls := machine.calls, turns := machine.turns } := by
  -- The object is looked up, the room is checked, and the body runs within the call.
  obtain ⟨record, found, kind⟩ := isClosure
  change (ofDepth levels).callRule (.object address) .undefined passed machine = _
  unfold callRule
  refine (Run.bind_ok (run_object found)).trans ?_
  rw [kind]
  exact (Run.bind_ok (Run.checkCalls_ok room)).trans (Run.withinCall_ok runs)

/-- A ready-made function is called while there is room for another call. -/
theorem call_builtin {levels : Nat} {machine : Machine} {address : Address} {builtin : Builtin}
    {receiver : Value} {passed : List Value}
    (isBuiltin : machine.objects[address]?.bind builtinOf? = some builtin)
    (room : machine.calls < machine.limits.calls) :
    (ofDepth (levels + 1)).call (.object address) receiver passed machine =
      (ofDepth levels).runBuiltin builtin receiver passed machine := by
  -- The object is looked up, and the room is checked; no count is kept of such a call.
  obtain ⟨record, found, is⟩ := Option.bind_eq_some_iff.1 isBuiltin
  change (ofDepth levels).callRule (.object address) receiver passed machine = _
  unfold callRule
  refine (Run.bind_ok (run_object found)).trans ?_
  rw [kind_of_builtinOf? is]
  exact Run.bind_ok (Run.checkCalls_ok room)

end Interpreter

end Script

end PipelineTrial
