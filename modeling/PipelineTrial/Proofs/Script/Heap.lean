import Mathlib.Order.Interval.Set.Basic
import PipelineTrial.Script.Sandbox

/-! Data among the objects of a script: lists and objects without functions, apart from what was there before. -/

namespace PipelineTrial

namespace Script

namespace Run

/-- A step that gives a value hands it on, with the state that it leaves. -/
theorem bind_ok {α β : Type} {step : Run α} {next : α → Run β} {machine later : Machine} {value : α}
    (gives : step machine = .ok value later) : (step >>= next) machine = next value later := by
  -- A sequence looks at the outcome of its first step.
  simp only [bind, EStateM.bind, gives]

/-- The state that is asked for is handed on as it is. -/
theorem bind_get {α : Type} {next : Machine → Run α} {machine : Machine} :
    (get >>= next) machine = next machine machine := rfl

end Run

/-- A value that is no object from before an address. -/
def IsDatum (base : Address) (value : Value) : Prop :=
  -- Numbers, texts and the like refer to nothing.
  ∀ address, value = .object address → base ≤ address

/-- An object that is no function and hands out none when it is written. -/
structure IsData (base : Address) (record : ObjectRecord) : Prop where
  notCallable : record.isCallable = false
  method : ∀ property, record.own? toJsonKey = some property →
    ∃ content, property = .plain content ∧ IsDatum base content
  prototype : ∀ address, record.prototype = some address → base ≤ address ∨
    address = Intrinsic.objectPrototype.address ∨ address = Intrinsic.listPrototype.address

/-- An object that is not there counts as data. -/
theorem isData_default (base : Address) : IsData base default where
  -- It has no kind of its own, no properties and no prototype.
  notCallable := rfl
  method := fun _ found => by cases found
  prototype := fun _ found => by cases found

/-- Data that refers to nothing before an address refers to nothing before an earlier one. -/
theorem IsData.mono {base earlier : Address} {record : ObjectRecord} (data : IsData base record)
    (below : earlier ≤ base) : IsData earlier record where
  -- Only the bound on what it refers to becomes weaker.
  notCallable := data.notCallable
  method := fun property found => by
    obtain ⟨content, same, datum⟩ := data.method property found
    exact ⟨content, same, fun address isObject => Nat.le_trans below (datum address isObject)⟩
  prototype := fun address found =>
    (data.prototype address found).imp_left fun after => Nat.le_trans below after

/-- All that was there is as it was. -/
structure Keeps (objects later : Array ObjectRecord) : Prop where
  grown : objects.size ≤ later.size
  kept : ∀ address < objects.size, later[address]? = objects[address]?

namespace Keeps

variable {objects later last : Array ObjectRecord}

/-- What is found stays where it is. -/
theorem found (keeps : Keeps objects later) {address : Address} {record : ObjectRecord}
    (found : objects[address]? = some record) : later[address]? = some record := by
  -- A place that holds something is one of those that are kept.
  rw [keeps.kept address (Array.getElem?_eq_some_iff.1 found).1]
  exact found

/-- What is told of an object that is there can still be told. -/
theorem map_eq (keeps : Keeps objects later) {address : Address} {α : Type} {tell : ObjectRecord → α}
    {told : α} (here : objects[address]?.map tell = some told) : later[address]?.map tell = some told := by
  -- The same object is there.
  obtain ⟨record, isThere, same⟩ := Option.map_eq_some_iff.1 here
  exact Option.map_eq_some_iff.2 ⟨record, keeps.found isThere, same⟩

/-- What can be told of an object that is there, if anything, can still be told. -/
theorem bind_eq (keeps : Keeps objects later) {address : Address} {α : Type}
    {tell : ObjectRecord → Option α} {told : α} (here : objects[address]?.bind tell = some told) :
    later[address]?.bind tell = some told := by
  -- The same object is there.
  obtain ⟨record, isThere, same⟩ := Option.bind_eq_some_iff.1 here
  exact Option.bind_eq_some_iff.2 ⟨record, keeps.found isThere, same⟩

/-- Nothing is changed at first. -/
theorem refl (objects : Array ObjectRecord) : Keeps objects objects := ⟨Nat.le_refl _, fun _ _ => rfl⟩

/-- What is kept once and then again is kept. -/
theorem trans (first : Keeps objects later) (second : Keeps later last) : Keeps objects last where
  -- What was there at first is within what is there in between.
  grown := Nat.le_trans first.grown second.grown
  kept := fun address inside => by
    rw [second.kept address (Nat.lt_of_lt_of_le inside first.grown), first.kept address inside]

/-- An object can be added. -/
theorem push (keeps : Keeps objects later) (record : ObjectRecord) : Keeps objects (later.push record) where
  -- It comes behind all that was there.
  grown := by
    rw [Array.size_push]
    exact Nat.le_succ_of_le keeps.grown
  kept := fun address inside => by
    rw [Array.getElem?_push, if_neg (Nat.ne_of_lt (Nat.lt_of_lt_of_le inside keeps.grown))]
    exact keeps.kept address inside

/-- An object that is new can be changed. -/
theorem modify (keeps : Keeps objects later) {address : Address} (outside : objects.size ≤ address)
    (change : ObjectRecord → ObjectRecord) : Keeps objects (later.modify address change) where
  -- The change is at a place behind all that was there.
  grown := by
    rw [Array.size_modify]
    exact keeps.grown
  kept := fun other inside => by
    rw [Array.getElem?_modify, if_neg (Nat.ne_of_gt (Nat.lt_of_lt_of_le inside outside))]
    exact keeps.kept other inside

end Keeps

/-- All that was there is as it was, and all that is new is data. -/
structure Extends (objects later : Array ObjectRecord) : Prop extends Keeps objects later where
  data : ∀ address record, objects.size ≤ address → later[address]? = some record →
    IsData objects.size record

namespace Extends

variable {objects later last : Array ObjectRecord}

/-- Nothing is new at first. -/
theorem refl (objects : Array ObjectRecord) : Extends objects objects where
  -- No place behind the last one holds anything.
  toKeeps := .refl objects
  data := fun _ _ outside found => by
    rw [Array.getElem?_eq_none outside] at found
    cases found

/-- What is new after one change and another is data. -/
theorem trans (first : Extends objects later) (second : Extends later last) : Extends objects last where
  -- What is new is so since the first change or since the second.
  toKeeps := first.toKeeps.trans second.toKeeps
  data := fun address record outside found => by
    by_cases old : address < later.size
    · -- New since the first change, it was left alone by the second.
      rw [second.kept address old] at found
      exact first.data address record outside found
    · -- New since the second change, it refers to nothing from before that, nor from earlier.
      exact (second.data address record (Nat.le_of_not_lt old) found).mono first.grown

/-- Data can be added. -/
theorem push (growth : Extends objects later) {record : ObjectRecord}
    (isData : IsData objects.size record) : Extends objects (later.push record) where
  toKeeps := growth.toKeeps.push record
  data := fun address found outside isThere => by
    by_cases last : address = later.size
    · -- At the last place stands what was added.
      rw [last, Array.getElem?_push_size] at isThere
      cases isThere
      exact isData
    · -- At every other place stands what stood there.
      rw [Array.getElem?_push] at isThere
      rw [if_neg last] at isThere
      exact growth.data address found outside isThere

/-- Data can be changed into other data. -/
theorem modify (growth : Extends objects later) {address : Address} (outside : objects.size ≤ address)
    {change : ObjectRecord → ObjectRecord} {record : ObjectRecord}
    (there : later[address]? = some record) (isData : IsData objects.size (change record)) :
    Extends objects (later.modify address change) where
  toKeeps := growth.toKeeps.modify outside change
  data := fun other found isOutside isThere => by
    rw [Array.getElem?_modify] at isThere
    split at isThere
    · next same =>
      -- At the place of the change stands what the change makes of the data.
      subst same
      rw [there] at isThere
      cases isThere
      exact isData
    · -- At every other place stands what stood there.
      exact growth.data other found isOutside isThere

end Extends

/-- A list as a literal makes it. -/
def listRecord (values : List Value) : ObjectRecord :=
  -- No item is missing.
  .bare (.list (values.map some).toArray (values.map some).toArray.size .free) .listPrototype

/-- An object as a literal makes it. -/
def holderRecord (prototype : Option Address) (members : List (String × Value)) : ObjectRecord :=
  -- Members can be written, are listed and can be removed.
  ⟨.plain, prototype, members.map fun member => (Units.ofString member.1, .plain member.2), true⟩

/-- A value stands for data of at most `depth` levels, all of it within an area of the objects. -/
inductive Holds (objects : Array ObjectRecord) : Nat → Set Address → Value → Json → Prop where
  | null {depth : Nat} {area : Set Address} : Holds objects depth area .null .null
  | boolean {depth : Nat} {area : Set Address} (value : Bool) :
    Holds objects depth area (.boolean value) (.boolean value)
  | integer {depth : Nat} {area : Set Address} {value : Int} (exact : value.natAbs < Number.wholeLimit) :
    Holds objects depth area (.number (.whole value)) (.integer value)
  | text {depth : Nat} {area : Set Address} (value : String) :
    Holds objects depth area (.text (Units.ofString value)) (.text value)
  /-- The items do not lead back to their list. -/
  | list {depth : Nat} {area : Set Address} {address : Address} (items : List (Value × Json))
    (inside : address ∈ area) (found : objects[address]? = some (listRecord (items.map (·.1))))
    (each : ∀ item ∈ items, Holds objects depth (area \ {address}) item.1 item.2) :
    Holds objects (depth + 1) area (.object address) (.list (items.map (·.2)))
  /-- The members do not lead back to their object. -/
  | object {depth : Nat} {area : Set Address} {address : Address} (prototype : Option Address)
    (members : List (String × Value × Json)) (inside : address ∈ area)
    (found : objects[address]? =
      some (holderRecord prototype (members.map fun member => (member.1, member.2.1))))
    (ascending : Entries.Ascending (members.map fun member => (member.1, member.2.2)))
    (each : ∀ member ∈ members, Holds objects depth (area \ {address}) member.2.1 member.2.2) :
    Holds objects (depth + 1) area (.object address)
      (.object (members.map fun member => (member.1, member.2.2)))

/-- A value stands for the same data while the objects of its area stay, and within every wider area. -/
theorem Holds.mono {objects later : Array ObjectRecord} {depth : Nat} {area wider : Set Address}
    {value : Value} {json : Json} (holds : Holds objects depth area value json) (within : area ⊆ wider)
    (kept : ∀ address ∈ area, ∀ record, objects[address]? = some record →
      later[address]? = some record) : Holds later depth wider value json := by
  -- By induction on the data: each part has an area without the object around it.
  induction holds generalizing wider with
  -- A value without parts needs no object.
  | null => exact .null
  | boolean value => exact .boolean value
  | integer exact => exact .integer exact
  | text value => exact .text value
  -- The list itself stays, and its items lie in the rest of the area.
  | list items inside found each ih =>
    refine .list items (within inside) (kept _ inside _ found) fun item member => ?_
    exact ih item member (Set.sdiff_subset_sdiff_left within) fun address isIn => kept address isIn.1
  -- The object itself stays, and its members lie in the rest of the area.
  | object prototype members inside found ascending each ih =>
    refine .object prototype members (within inside) (kept _ inside _ found) ascending
      fun member isMember => ?_
    exact ih member isMember (Set.sdiff_subset_sdiff_left within) fun address isIn => kept address isIn.1

/-- A value that stands for data is no object from outside its area. -/
theorem Holds.mem_of_object {objects : Array ObjectRecord} {depth : Nat} {area : Set Address}
    {address : Address} {json : Json} (holds : Holds objects depth area (.object address) json) :
    address ∈ area := by
  -- Only a list and an object are objects.
  cases holds with
  | list _ inside => exact inside
  | object _ _ inside => exact inside

/-- A value that stands for data is there. -/
theorem Holds.ne_undefined {objects : Array ObjectRecord} {depth : Nat} {area : Set Address}
    {value : Value} {json : Json} (holds : Holds objects depth area value json) : value ≠ .undefined := by
  -- No data is undefined.
  rintro rfl
  cases holds

end Script

end PipelineTrial
