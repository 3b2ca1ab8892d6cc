import PipelineTrial.Proofs.Dictionary
import PipelineTrial.Proofs.Script.Heap
import PipelineTrial.Proofs.Text.Units

/-! A value spelled as an expression evaluates to itself, but for members that set the prototype. -/

namespace PipelineTrial

namespace Script

/-- The name of a member that sets the prototype where it stands in an object literal. -/
def prototypeName : String := "__proto__"

/-- A value of at most `depth` brackets inside each other whose numbers are whole and need no rounding. -/
inductive Exact : Nat → Json → Prop where
  | null {depth : Nat} : Exact depth .null
  | boolean {depth : Nat} (value : Bool) : Exact depth (.boolean value)
  | integer {depth : Nat} {value : Int} (exact : value.natAbs < Number.wholeLimit) : Exact depth (.integer value)
  | text {depth : Nat} (value : String) : Exact depth (.text value)
  | list {depth : Nat} {items : List Json} (each : ∀ item ∈ items, Exact depth item) :
    Exact (depth + 1) (.list items)
  | object {depth : Nat} {fields : List (String × Json)} (ascending : Entries.Ascending fields)
    (each : ∀ field ∈ fields, Exact depth field.2) : Exact (depth + 1) (.object fields)

mutual

/-- A value without the fields that are named like the prototype, at every depth. -/
def kept : Json → Json
  | .list items => .list (keptItems items)
  | .object fields => .object (keptFields fields)
  | other => other

/-- Values, each without the fields that are named like the prototype. -/
def keptItems : List Json → List Json
  | [] => []
  | item :: rest => kept item :: keptItems rest

/-- Fields that are not named like the prototype, each with what is kept of its value. -/
def keptFields : List (String × Json) → List (String × Json)
  | [] => []
  | (name, value) :: rest =>
    if name = prototypeName then keptFields rest else (name, kept value) :: keptFields rest

end

mutual

/-- Whether a map somewhere in a value has a field that is named like the prototype. -/
def namesPrototype : Json → Bool
  | .list items => itemsNamePrototype items
  | .object fields => fieldsNamePrototype fields
  | _ => false

/-- Whether a map somewhere in values has a field that is named like the prototype. -/
def itemsNamePrototype : List Json → Bool
  | [] => false
  | item :: rest => namesPrototype item || itemsNamePrototype rest

/-- Whether a field, or a map somewhere in the values of fields, is named like the prototype. -/
def fieldsNamePrototype : List (String × Json) → Bool
  | [] => false
  | (name, value) :: rest =>
    decide (name = prototypeName) || namesPrototype value || fieldsNamePrototype rest

end

/-- Fields are kept one by one. -/
theorem keptFields_cons (field : String × Json) (rest : List (String × Json)) :
    keptFields (field :: rest) = keptFields [field] ++ keptFields rest := by
  obtain ⟨name, value⟩ := field
  by_cases sets : name = prototypeName <;> simp [keptFields, sets]

/-- Fields that are dropped make fewer. -/
theorem length_keptFields_le (fields : List (String × Json)) :
    (keptFields fields).length ≤ fields.length := by
  induction fields with
  | nil => rfl
  | cons field rest ih =>
    obtain ⟨name, value⟩ := field
    rw [keptFields]
    split
    · exact Nat.le_succ_of_le ih
    · exact Nat.succ_le_succ ih

/-- The names of the fields that are kept are among all names, in their order. -/
theorem keys_keptFields_sublist (fields : List (String × Json)) :
    (Entries.keys (keptFields fields)).Sublist (Entries.keys fields) := by
  induction fields with
  | nil => exact List.Sublist.refl _
  | cons field rest ih =>
    obtain ⟨name, value⟩ := field
    rw [keptFields]
    split
    · exact ih.cons name
    · exact ih.cons_cons name

/-- Fields are kept in their order. -/
theorem ascending_keptFields {fields : List (String × Json)} (ascending : Entries.Ascending fields) :
    Entries.Ascending (keptFields fields) :=
  -- The order is one of the names alone.
  List.pairwise_map.1 ((List.pairwise_map.2 ascending).sublist (keys_keptFields_sublist fields))

mutual

/-- A value is kept as it is exactly when nothing in it is named like the prototype. -/
theorem kept_eq_self_iff : (json : Json) → (kept json = json ↔ namesPrototype json = false)
  | .null => by simp [kept, namesPrototype]
  | .boolean _ => by simp [kept, namesPrototype]
  | .integer _ => by simp [kept, namesPrototype]
  | .float _ => by simp [kept, namesPrototype]
  | .text _ => by simp [kept, namesPrototype]
  | .list items => by simp [kept, namesPrototype, keptItems_eq_self_iff items]
  | .object fields => by simp [kept, namesPrototype, keptFields_eq_self_iff fields]

/-- Values are kept as they are exactly when nothing in them is named like the prototype. -/
theorem keptItems_eq_self_iff :
    (items : List Json) → (keptItems items = items ↔ itemsNamePrototype items = false)
  | [] => by simp [keptItems, itemsNamePrototype]
  | item :: rest => by
    simp [keptItems, itemsNamePrototype, kept_eq_self_iff item, keptItems_eq_self_iff rest]

/-- Fields are kept as they are exactly when nothing in them is named like the prototype. -/
theorem keptFields_eq_self_iff :
    (fields : List (String × Json)) → (keptFields fields = fields ↔ fieldsNamePrototype fields = false)
  | [] => by simp [keptFields, fieldsNamePrototype]
  | (name, value) :: rest => by
    -- With a field dropped there are fewer than before.
    by_cases drops : name = prototypeName
    · have shorter := length_keptFields_le rest
      have different : keptFields rest ≠ (name, value) :: rest := by
        intro same
        rw [same, List.length_cons] at shorter
        omega
      simp [keptFields, fieldsNamePrototype, drops] at different ⊢
      exact different
    · simp [keptFields, fieldsNamePrototype, drops, kept_eq_self_iff value,
        keptFields_eq_self_iff rest]

end

namespace Interpreter

/-- One level of evaluation goes by the rule of the expression. -/
theorem evaluate_succ (levels : Nat) (surrounding : Surrounding) (expression : Expression) :
    (ofDepth (levels + 1)).evaluate surrounding expression =
      (ofDepth levels).evaluateRule surrounding expression := rfl

/-- Whatever the state, a spelled value evaluates to new data that stands for what is kept of the value. -/
def Evaluates (self : Interpreter) (surrounding : Surrounding) (depth : Nat) (json : Json) : Prop :=
  ∀ machine : Machine, ∃ value objects,
    self.evaluate surrounding (literal json) machine = .ok value { machine with objects } ∧
      Extends machine.objects objects ∧
      Holds objects depth (Set.Ico machine.objects.size objects.size) value (kept json)

variable {self : Interpreter} {surrounding : Surrounding} {depth : Nat}

/-- The items of a spelled list are evaluated in order, and none changes those before it. -/
private theorem evaluatePlaces_literal {items : List Json}
    (each : ∀ item ∈ items, self.Evaluates surrounding depth item) (machine : Machine) :
    ∃ (values : List (Value × Json)) (objects : Array ObjectRecord),
      self.evaluatePlaces surrounding (literalItems items) machine =
        .ok ((values.map (·.1)).map some) { machine with objects } ∧
      Extends machine.objects objects ∧ values.map (·.2) = keptItems items ∧
      ∀ value ∈ values,
        Holds objects depth (Set.Ico machine.objects.size objects.size) value.1 value.2 := by
  -- By induction on the items: what the rest makes comes behind the first item.
  induction items generalizing machine with
  | nil => exact ⟨[], machine.objects, rfl, .refl _, rfl, fun _ member => by cases member⟩
  | cons item rest ih =>
    obtain ⟨itemEvaluates, restEvaluate⟩ := List.forall_mem_cons.1 each
    obtain ⟨value, objects, evaluated, growth, holds⟩ := itemEvaluates machine
    obtain ⟨values, later, restEvaluated, restGrowth, same, restHold⟩ :=
      ih restEvaluate { machine with objects }
    refine ⟨(value, kept item) :: values, later, ?_, growth.trans restGrowth, ?_, ?_⟩
    · rw [literalItems, evaluatePlaces, Run.bind_ok evaluated, Run.bind_ok restEvaluated]
      rfl
    · rw [List.map_cons, same, keptItems]
    · refine List.forall_mem_cons.2 ⟨holds.mono ?_ ?_, fun other member => ?_⟩
      · exact Set.Ico_subset_Ico_right restGrowth.grown
      · exact fun _ _ _ found => restGrowth.found found
      · exact (restHold other member).mono (Set.Ico_subset_Ico_left growth.grown) fun _ _ _ found => found

end Interpreter

/-- An object that was made behind others and has been given members, with nothing but data made since. -/
structure Filled (start objects : Array ObjectRecord) (depth : Nat)
    (members : List (String × Value × Json)) : Prop where
  growth : Extends start objects
  there : ∃ prototype, objects[start.size]? =
    some (holderRecord prototype (members.map fun member => (member.1, member.2.1)))
  holds : ∀ member ∈ members,
    Holds objects depth (Set.Ico (start.size + 1) objects.size) member.2.1 member.2.2

/-- An object is data when its members and its prototype are. -/
theorem isData_holderRecord {base : Address} {prototype : Option Address}
    {members : List (String × Value)}
    (isPrototype : ∀ address, prototype = some address → base ≤ address ∨
      address = Intrinsic.objectPrototype.address ∨ address = Intrinsic.listPrototype.address)
    (each : ∀ member ∈ members, IsDatum base member.2) :
    IsData base (holderRecord prototype members) where
  notCallable := rfl
  method := fun property found => by
    -- A method is a member like any other, so it is data.
    obtain ⟨before, after, split, -⟩ := List.lookup_eq_some_iff.1
      (show (holderRecord prototype members).properties.lookup toJsonKey = some property from found)
    have listed : (toJsonKey, property) ∈ (holderRecord prototype members).properties := by
      rw [split]
      simp
    obtain ⟨member, isMember, same⟩ := List.mem_map.1 listed
    exact ⟨member.2, (Prod.ext_iff.1 same).2.symm, each member isMember⟩
  prototype := isPrototype

namespace Filled

variable {start objects later : Array ObjectRecord} {depth : Nat}
  {members : List (String × Value × Json)}

/-- The object is there. -/
theorem inside (filled : Filled start objects depth members) : start.size < objects.size := by
  obtain ⟨prototype, found⟩ := filled.there
  exact (Array.getElem?_eq_some_iff.1 found).1

/-- More data may be made. -/
theorem grow (filled : Filled start objects depth members) (growth : Extends objects later) :
    Filled start later depth members where
  growth := filled.growth.trans growth
  there := by
    obtain ⟨prototype, found⟩ := filled.there
    exact ⟨prototype, growth.found found⟩
  holds := fun member isMember => (filled.holds member isMember).mono
    (Set.Ico_subset_Ico_right growth.grown) fun _ _ _ found => growth.found found

/-- The object may be changed into one whose members and prototype are data. -/
theorem change (filled : Filled start objects depth members) {change : ObjectRecord → ObjectRecord}
    {others : List (String × Value × Json)} (prototype : Option Address)
    (isPrototype : ∀ address, prototype = some address → start.size ≤ address ∨
      address = Intrinsic.objectPrototype.address ∨ address = Intrinsic.listPrototype.address)
    (changes : ∀ record, objects[start.size]? = some record → change record =
      holderRecord prototype (others.map fun member => (member.1, member.2.1)))
    (holds : ∀ member ∈ others,
      Holds objects depth (Set.Ico (start.size + 1) objects.size) member.2.1 member.2.2) :
    Filled start (objects.modify start.size change) depth others where
  growth := by
    obtain ⟨_, found⟩ := filled.there
    -- The object that is filled is new, so it may become any data made since the start.
    refine filled.growth.modify (Nat.le_refl _) found ?_
    rw [changes _ found]
    refine isData_holderRecord isPrototype fun member isMember address isObject => ?_
    obtain ⟨other, isOther, rfl⟩ := List.mem_map.1 isMember
    have holdsOther := holds other isOther
    dsimp only at isObject
    rw [isObject] at holdsOther
    exact Nat.le_of_succ_le holdsOther.mem_of_object.1
  there := by
    obtain ⟨_, found⟩ := filled.there
    exact ⟨prototype, by rw [Array.getElem?_modify, if_pos rfl, found, Option.map_some, changes _ found]⟩
  holds := fun member isMember => by
    -- The members lie behind the object, where nothing changes.
    rw [Array.size_modify]
    refine (holds member isMember).mono (Set.Subset.refl _) fun address isIn record found => ?_
    rw [Array.getElem?_modify, if_neg (Nat.ne_of_lt isIn.1)]
    exact found

/-- The prototype that the object has is data or a prototype of objects or lists. -/
theorem prototype_data (filled : Filled start objects depth members) :
    ∃ prototype, objects[start.size]? =
        some (holderRecord prototype (members.map fun member => (member.1, member.2.1))) ∧
      ∀ address, prototype = some address → start.size ≤ address ∨
        address = Intrinsic.objectPrototype.address ∨ address = Intrinsic.listPrototype.address := by
  obtain ⟨prototype, found⟩ := filled.there
  exact ⟨prototype, found, (filled.growth.data _ _ (Nat.le_refl _) found).prototype⟩

end Filled

/-- A property under a new name comes last. -/
theorem putProperty_new {key : Units} (property : Property) {properties : List (Units × Property)}
    (absent : ∀ other ∈ properties, other.1 ≠ key) :
    ObjectRecord.putProperty key property properties = properties ++ [(key, property)] := by
  induction properties with
  | nil => rfl
  | cons other rest ih =>
    obtain ⟨different, restAbsent⟩ := List.forall_mem_cons.1 absent
    rw [ObjectRecord.putProperty, if_neg (by simpa using different), ih restAbsent, List.cons_append]

/-- A member under a new name comes last. -/
theorem put_holderRecord (prototype : Option Address) {members : List (String × Value)} {name : String}
    (new : ∀ member ∈ members, member.1 ≠ name) (content : Value) :
    (holderRecord prototype members).put (Units.ofString name) (.plain content) =
      holderRecord prototype (members ++ [(name, content)]) := by
  -- Different names have different units.
  have absent : ∀ other ∈ (holderRecord prototype members).properties, other.1 ≠ Units.ofString name := by
    intro other isOther same
    obtain ⟨member, isMember, rfl⟩ := List.mem_map.1 isOther
    exact new member isMember (Units.ofString_inj.1 same)
  have appended := putProperty_new (.plain content) absent
  change (⟨.plain, prototype, ObjectRecord.putProperty _ _ _, true⟩ : ObjectRecord) = _
  simp only [holderRecord] at appended ⊢
  simp [appended]

namespace Filled

variable {start objects : Array ObjectRecord} {depth : Nat} {members : List (String × Value × Json)}
  {content : Value} {json : Json}

/-- The object may be given another member. -/
theorem put (filled : Filled start objects depth members) {name : String}
    (new : ∀ member ∈ members, member.1 ≠ name)
    (holds : Holds objects depth (Set.Ico (start.size + 1) objects.size) content json) :
    Filled start (objects.modify start.size (·.put (Units.ofString name) (.plain content))) depth
      (members ++ [(name, content, json)]) := by
  -- Its prototype stays.
  obtain ⟨prototype, found, isPrototype⟩ := filled.prototype_data
  refine filled.change prototype isPrototype (fun record isThere => ?_) fun member isMember => ?_
  · rw [found] at isThere
    cases isThere
    rw [put_holderRecord prototype, List.map_append]
    · rfl
    · rintro _ isMember
      obtain ⟨member, isOld, rfl⟩ := List.mem_map.1 isMember
      exact new member isOld
  · rcases List.mem_append.1 isMember with old | isNew
    · exact filled.holds member old
    · cases List.mem_singleton.1 isNew
      exact holds

/-- The object may be given another prototype. -/
theorem adopt (filled : Filled start objects depth members) (machine : Machine)
    (same : machine.objects = objects)
    (holds : Holds objects depth (Set.Ico (start.size + 1) objects.size) content json) :
    ∃ later, adoptPrototype start.size content machine = .ok () { machine with objects := later } ∧
      Filled start later depth members := by
  -- Only an object or null becomes the prototype.
  obtain ⟨prototype, found, -⟩ := filled.prototype_data
  subst same
  cases content with
  | object address =>
    refine ⟨_, rfl, filled.change (some address) ?_ ?_ filled.holds⟩
    · rintro other same
      cases same
      exact .inl (Nat.le_of_succ_le holds.mem_of_object.1)
    · rintro record isThere
      rw [found] at isThere
      cases isThere
      rfl
  | null =>
    refine ⟨_, rfl, filled.change none (fun _ same => by cases same) ?_ filled.holds⟩
    rintro record isThere
    rw [found] at isThere
    cases isThere
    rfl
  | _ => exact ⟨machine.objects, rfl, filled⟩

end Filled

/-- A name has the units of the prototype's name exactly when it is that name. -/
theorem units_eq_prototypeName (name : String) :
    (Units.ofString name == Grammar.prototypeName) = decide (name = prototypeName) := by
  rw [Bool.eq_iff_iff, beq_iff_eq, decide_eq_true_iff]
  exact Units.ofString_inj

namespace Interpreter

variable {self : Interpreter} {surrounding : Surrounding} {depth : Nat}

/-- A spelled value is no function, so it shows no name. -/
theorem evaluateAs_literal (shown : Units) (json : Json) :
    self.evaluateAs surrounding shown (literal json) = self.evaluate surrounding (literal json) := by
  cases json with
  | integer value =>
    simp only [literal, wholeLiteral]
    split <;> rfl
  | _ => rfl

/-- A member of an object literal is evaluated and put in place, or sets the prototype. -/
def evaluateMember (self : Interpreter) (surrounding : Surrounding) (address : Address) (key : Units)
    (expression : Expression) (sets : Bool) : Run Unit := do
  -- Its name is known.
  let content ← self.evaluateAs surrounding key expression
  if sets then adoptPrototype address content else Run.alter address (·.put key (.plain content))

/-- Members with fixed names are evaluated one by one. -/
theorem evaluateMembers_named (address : Address) (key : Units) (expression : Expression)
    (sets : Bool) (rest : List Member) :
    self.evaluateMembers surrounding address (.named .value (.fixed key) expression sets :: rest) =
      (do
        self.evaluateMember surrounding address key expression sets
        self.evaluateMembers surrounding address rest) := by
  rw [evaluateMember, bind_assoc]
  cases sets <;> rfl

/-- A spelled member with a new name is put on the object, unless it sets its prototype. -/
private theorem evaluateMember_literal {name : String} {value : Json}
    (evaluates : self.Evaluates surrounding depth value) {start : Array ObjectRecord}
    {members : List (String × Value × Json)} (machine : Machine)
    (filled : Filled start machine.objects depth members) (new : ∀ member ∈ members, member.1 ≠ name) :
    ∃ (added : List (String × Value × Json)) (objects : Array ObjectRecord),
      self.evaluateMember surrounding start.size (Units.ofString name) (literal value)
          (Units.ofString name == Grammar.prototypeName) machine = .ok () { machine with objects } ∧
        Filled start objects depth (members ++ added) ∧
        added.map (fun member => (member.1, member.2.2)) = keptFields [(name, value)] := by
  -- The value is made behind the object, which stays as it is until then.
  obtain ⟨content, objects, evaluated, growth, holds⟩ := evaluates machine
  have grown := filled.grow growth
  have behind := holds.mono (Set.Ico_subset_Ico_left (Nat.succ_le_of_lt filled.inside))
    fun _ _ _ found => found
  rw [evaluateMember, evaluateAs_literal, Run.bind_ok evaluated, keptFields, units_eq_prototypeName]
  by_cases sets : name = prototypeName
  · obtain ⟨adopted, adopts, adoptedFilled⟩ := grown.adopt { machine with objects } rfl behind
    refine ⟨[], adopted, ?_, by rwa [List.append_nil], by rw [if_pos sets]; rfl⟩
    rw [if_pos (decide_eq_true sets), adopts]
  · refine ⟨[(name, content, kept value)], _, ?_, grown.put new behind, by rw [if_neg sets]; rfl⟩
    rw [if_neg (by simpa using sets)]
    rfl

/-- The members of a spelled object are put on it in order, but for the one that sets its prototype. -/
private theorem evaluateMembers_literal {fields : List (String × Json)}
    (each : ∀ field ∈ fields, self.Evaluates surrounding depth field.2)
    (distinct : (Entries.keys fields).Nodup) {start : Array ObjectRecord}
    {members : List (String × Value × Json)} (machine : Machine)
    (filled : Filled start machine.objects depth members)
    (apart : ∀ member ∈ members, member.1 ∉ Entries.keys fields) :
    ∃ (added : List (String × Value × Json)) (objects : Array ObjectRecord),
      self.evaluateMembers surrounding start.size (literalMembers fields) machine =
        .ok () { machine with objects } ∧
      Filled start objects depth (members ++ added) ∧
      added.map (fun member => (member.1, member.2.2)) = keptFields fields := by
  -- By induction on the fields, with the members put so far.
  induction fields generalizing machine members with
  | nil => exact ⟨[], machine.objects, rfl, by rwa [List.append_nil], rfl⟩
  | cons field rest ih =>
    obtain ⟨valueEvaluates, restEvaluate⟩ := List.forall_mem_cons.1 each
    obtain ⟨absent, restDistinct⟩ := List.nodup_cons.1 distinct
    have new : ∀ member ∈ members, member.1 ≠ field.1 :=
      fun member isMember same => apart member isMember (same ▸ List.mem_cons_self)
    obtain ⟨first, objects, evaluated, firstFilled, firstSame⟩ :=
      evaluateMember_literal valueEvaluates machine filled new
    have restApart : ∀ member ∈ members ++ first, member.1 ∉ Entries.keys rest := by
      intro member isMember
      rcases List.mem_append.1 isMember with old | isNew
      · exact fun isRest => apart member old (List.mem_cons_of_mem _ isRest)
      · have named : member.1 ∈ Entries.keys (keptFields [field]) :=
          firstSame ▸ List.mem_map_of_mem (List.mem_map_of_mem isNew)
        rw [List.mem_singleton.1 ((keys_keptFields_sublist [field]).subset named)]
        exact absent
    obtain ⟨added, later, restEvaluated, restFilled, restSame⟩ :=
      ih restEvaluate restDistinct { machine with objects } firstFilled restApart
    refine ⟨first ++ added, later, ?_, ?_, ?_⟩
    · rw [literalMembers, evaluateMembers_named, Run.bind_ok evaluated]
      exact restEvaluated
    · rwa [← List.append_assoc]
    · rw [List.map_append, firstSame, restSame, ← keptFields_cons]

/-- A new object without members is being filled. -/
private theorem filled_new (start : Array ObjectRecord) (depth : Nat) :
    Filled start (start.push (.bare .plain .objectPrototype)) depth [] where
  growth := by
    have isData : IsData start.size (holderRecord (some Intrinsic.objectPrototype.address) []) :=
      isData_holderRecord (fun _ same => by cases same; exact .inr (.inl rfl))
        fun _ isMember => by cases isMember
    exact (Extends.refl start).push isData
  there := ⟨_, Array.getElem?_push_size⟩
  holds := fun _ isMember => by cases isMember

/-- A list literal makes a list of what its items evaluate to. -/
private theorem evaluates_list {items : List Json} {levels : Nat}
    (each : ∀ item ∈ items, (ofDepth levels).Evaluates surrounding depth item) :
    (ofDepth (levels + 1)).Evaluates surrounding (depth + 1) (.list items) := by
  intro machine
  obtain ⟨values, objects, evaluated, growth, same, hold⟩ := evaluatePlaces_literal each machine
  -- The list is made behind its items, with no property but those.
  have isData : IsData machine.objects.size (listRecord (values.map (·.1))) := {
    notCallable := rfl
    method := fun property found => by cases found
    prototype := fun address isPrototype => by
      cases isPrototype
      exact .inr (.inr rfl) }
  refine ⟨.object objects.size, objects.push (listRecord (values.map (·.1))), ?_,
    growth.push isData, ?_⟩
  · have rule : (ofDepth (levels + 1)).evaluate surrounding (literal (.list items)) =
        ((ofDepth levels).evaluatePlaces surrounding (literalItems items) >>=
          fun places => Run.makeSparse places.toArray) := rfl
    rw [rule, Run.bind_ok evaluated]
    rfl
  · -- The items stay where they are when the list is pushed behind them.
    rw [kept, ← same, Array.size_push]
    refine .list values ⟨growth.grown, Nat.lt_succ_self _⟩ Array.getElem?_push_size fun value member => ?_
    refine (hold value member).mono (fun address isIn => ?_) fun address isIn record found => ?_
    · exact ⟨⟨isIn.1, Nat.lt_succ_of_lt isIn.2⟩, Nat.ne_of_lt isIn.2⟩
    · rw [Array.getElem?_push, if_neg (Nat.ne_of_lt isIn.2)]
      exact found

/-- An object literal makes an object of what its members evaluate to. -/
private theorem evaluates_object {fields : List (String × Json)} (ascending : Entries.Ascending fields)
    {levels : Nat} (each : ∀ field ∈ fields, (ofDepth levels).Evaluates surrounding depth field.2) :
    (ofDepth (levels + 1)).Evaluates surrounding (depth + 1) (.object fields) := by
  intro machine
  -- The object is made before its members, and is filled with one after the other.
  obtain ⟨members, objects, evaluated, filled, same⟩ :=
    evaluateMembers_literal each (Entries.nodup_keys ascending)
      { machine with objects := machine.objects.push (.bare .plain .objectPrototype) }
      (filled_new machine.objects depth) fun _ isMember => by cases isMember
  rw [List.nil_append] at filled
  obtain ⟨prototype, found⟩ := filled.there
  refine ⟨.object machine.objects.size, objects, ?_, filled.growth, ?_⟩
  · have rule : (ofDepth (levels + 1)).evaluate surrounding (literal (.object fields)) =
        (do
          let address ← Run.make (.bare .plain .objectPrototype)
          (ofDepth levels).evaluateMembers surrounding address (literalMembers fields)
          return .object address) := rfl
    have made : Run.make (.bare .plain .objectPrototype) machine = .ok machine.objects.size
        { machine with objects := machine.objects.push (.bare .plain .objectPrototype) } := rfl
    rw [rule, Run.bind_ok made, Run.bind_ok evaluated]
    rfl
  · -- Each member lies behind the object, and so apart from it.
    rw [kept, ← same]
    refine .object prototype members ⟨Nat.le_refl _, filled.inside⟩ found ?_ fun member isMember => ?_
    · rw [same]
      exact ascending_keptFields ascending
    · refine (filled.holds member isMember).mono (fun address isIn => ?_) fun _ _ _ found => found
      exact ⟨⟨Nat.le_of_succ_le isIn.1, isIn.2⟩, Nat.ne_of_gt isIn.1⟩

/-- A spelled whole number evaluates to itself, whatever its sign. -/
private theorem evaluate_wholeLiteral {value : Int} (exact : value.natAbs < Number.wholeLimit) (levels : Nat)
    (machine : Machine) : (ofDepth (levels + 2)).evaluate surrounding (wholeLiteral value) machine =
      .ok (.number (.whole value)) machine := by
  -- The sign is taken off and put back, and zero has none.
  have magnitude : Number.ofNat value.natAbs = .whole value.natAbs := if_pos (Nat.le_of_lt exact)
  rw [wholeLiteral, magnitude]
  split
  · next below =>
    have nonzero : ((value.natAbs : Int) == 0) = false := by simpa using Int.ne_of_lt below
    have negated : Number.negate (.whole value.natAbs) = .whole value := by
      rw [Number.negate, nonzero, Int.ofNat_natAbs_of_nonpos (Int.le_of_lt below), Int.neg_neg]
      rfl
    rw [← negated]
    rfl
  · next notBelow =>
    rw [Int.natAbs_of_nonneg (Int.not_lt.1 notBelow)]
    rfl

/-- A spelled value evaluates to new data that stands for what is kept of the value. -/
theorem evaluate_literal {json : Json} (exact : Exact depth json) {levels : Nat} (deep : depth ≤ levels) :
    (ofDepth (levels + 2)).Evaluates surrounding depth json := by
  -- By induction on the value: the parts of a list or an object are evaluated one level below it.
  induction exact generalizing levels with
  | null => exact fun machine => ⟨.null, machine.objects, rfl, .refl _, .null⟩
  | boolean value => exact fun machine => ⟨.boolean value, machine.objects, rfl, .refl _, .boolean value⟩
  | integer exact =>
    exact fun machine => ⟨_, machine.objects, evaluate_wholeLiteral exact levels machine, .refl _, .integer exact⟩
  | text value => exact fun machine => ⟨.text _, machine.objects, rfl, .refl _, .text value⟩
  | list each ih =>
    obtain ⟨levels, rfl⟩ : ∃ less, levels = less + 1 := ⟨levels - 1, by omega⟩
    exact evaluates_list fun item member => ih item member (by omega)
  | object ascending each ih =>
    obtain ⟨levels, rfl⟩ : ∃ less, levels = less + 1 := ⟨levels - 1, by omega⟩
    exact evaluates_object ascending fun field member => ih field member (by omega)

end Interpreter

end Script

end PipelineTrial
