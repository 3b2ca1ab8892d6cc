import Mathlib.Data.List.Perm.Basic
import PipelineTrial.Proofs.Dictionary
import PipelineTrial.Proofs.Json.Rendering
import PipelineTrial.Proofs.Script.Heap
import PipelineTrial.Proofs.Text.Units

/-! What is data among the objects of a script is written as a text of that data. -/

namespace PipelineTrial

namespace Script

section Quoting

/-- A whole unit is quoted by itself. -/
private theorem quoteInner_whole {unit : UInt16} (whole : Units.IsWhole unit) (rest : Units) :
    quoteInner (unit :: rest) = quoteUnit unit ++ quoteInner rest := by
  cases rest <;> simp [quoteInner, whole.1]

/-- A surrogate pair stands for itself inside quotes. -/
private theorem quoteInner_pair {high low : UInt16} (pair : Units.IsPair high low) (rest : Units) :
    quoteInner (high :: low :: rest) = high :: low :: quoteInner rest := by
  simp [quoteInner, pair.1, pair.2]

/-- Characters beyond ASCII are not escaped. -/
private theorem escapeChar_large {char : Char} (large : 128 ≤ char.toNat) :
    Json.escapeChar char = [char] := by
  -- All characters that are escaped have small codes.
  have different (other : Char) (small : other.toNat < 128) : char ≠ other := by
    rintro rfl
    omega
  have visible : ¬ char.toNat < 32 := by omega
  simp [Json.escapeChar, different, visible]

/-- A whole unit is quoted as its character is escaped. -/
private theorem quoteUnit_char {char : Char} (whole : Units.IsWhole (UInt16.ofNat char.toNat))
    (number : (UInt16.ofNat char.toNat).toNat = char.toNat)
    (same : Units.ofChar char = [UInt16.ofNat char.toNat]) :
    quoteUnit (UInt16.ofNat char.toNat) = Units.ofChars (Json.escapeChar char) := by
  -- The characters that are escaped are among the first ones, which are gone through.
  by_cases small : char.toNat < 128
  · have each : ∀ code : Fin 128, quoteUnit (UInt16.ofNat code) =
        Units.ofChars (Json.escapeChar (Char.ofNat code)) := by decide
    have here := each ⟨char.toNat, small⟩
    rwa [Char.ofNat_toNat] at here
  · have different (unit : UInt16) (small : unit.toNat < 128) : UInt16.ofNat char.toNat ≠ unit := by
      intro equal
      rw [← equal, number] at small
      omega
    have visible : ¬ UInt16.ofNat char.toNat < 32 := by
      rw [UInt16.lt_iff_toNat_lt, number]
      simp
      omega
    rw [escapeChar_large (Nat.le_of_not_lt small)]
    simp [quoteUnit, different, visible, whole.1, whole.2, Units.ofChars, same]

/-- The units of a text are quoted as its characters are escaped. -/
private theorem quoteInner_ofChars (chars : List Char) :
    quoteInner (Units.ofChars chars) = Units.ofChars (chars.flatMap Json.escapeChar) := by
  induction chars with
  | nil => rfl
  | cons char rest ih =>
    have spelled : Units.ofChars (char :: rest) = Units.ofChar char ++ Units.ofChars rest := rfl
    rw [spelled, List.flatMap_cons, Units.ofChars_append, ← ih]
    -- A character is one whole unit, or a pair that needs no escape.
    rcases Units.ofChar_cases char with ⟨same, whole, number⟩ | ⟨high, low, same, pair, -⟩
    · rw [← quoteUnit_char whole number same, same]
      exact quoteInner_whole whole _
    · have large : 128 ≤ char.toNat := by
        by_contra small
        have single : Units.ofChar char = [UInt16.ofNat char.toNat] := if_pos (by omega)
        rw [single] at same
        cases same
      rw [escapeChar_large large, same]
      simp only [Units.ofChars, List.flatMap_cons, List.flatMap_nil, List.append_nil, same]
      exact quoteInner_pair pair _

/-- A text is quoted as it is written. -/
theorem quoteText_ofString (text : String) :
    quoteText (Units.ofString text) = Units.ofChars (Json.writeText text) := by
  have closed (chars : List Char) :
      Units.ofChars ('"' :: (chars ++ ['"'])) = 34 :: (Units.ofChars chars ++ [34]) := by
    simp [Units.ofChars, Units.ofChar]
  rw [quoteText, Units.ofString, quoteInner_ofChars, Json.writeText, closed]

end Quoting

section Methods

variable {self : Interpreter} {machine : Machine}

/-- An object that is found is the one at its address. -/
theorem object_of_found {address : Address} {record : ObjectRecord}
    (found : machine.objects[address]? = some record) : machine.object address = record := by
  rw [Machine.object, found]
  rfl

/-- An object that is found is read. -/
theorem run_object {address : Address} {record : ObjectRecord}
    (found : machine.objects[address]? = some record) :
    Run.object address machine = .ok record machine := by
  rw [← object_of_found found]
  rfl

/-- An own property is what its name leads to. -/
theorem lookup?_of_own {address : Address} {record : ObjectRecord} {key : Units} {property : Property}
    (found : machine.objects[address]? = some record) (own : record.own? key = some property) :
    machine.lookup? address key = some property := by
  -- The chain of prototypes ends where it starts.
  have inside : address < machine.objects.size := (Array.getElem?_eq_some_iff.1 found).1
  obtain ⟨bound, size⟩ := Nat.exists_eq_succ_of_ne_zero (Nat.ne_zero_of_lt inside)
  rw [Machine.lookup?, size, Machine.find?, object_of_found found, own]

/-- A member of an object is what its name leads to. -/
theorem read_object (address : Address) (key : Units) :
    self.read (.object address) key machine =
      self.readProperty (.object address) (machine.lookup? address key) machine := rfl

/-- An object has no method that gives what is written in its place. -/
def Quiet (self : Interpreter) (machine : Machine) (address : Address) : Prop :=
  ∃ method, self.read (.object address) toJsonKey machine = .ok method machine ∧
    isCallable method machine = .ok false machine

/-- An object that is new, or is not there at all, is data. -/
private theorem isData_object {start : Array ObjectRecord} (growth : Extends start machine.objects)
    {address : Address} (outside : start.size ≤ address) :
    IsData start.size (machine.object address) := by
  cases isThere : machine.objects[address]? with
  | none =>
    rw [Machine.object, isThere]
    exact isData_default _
  | some record =>
    rw [object_of_found isThere]
    exact growth.data address record outside isThere

/-- The chain of prototypes of data leads to nothing but data. -/
private theorem find?_data {start : Array ObjectRecord} (growth : Extends start machine.objects)
    (silent : ∀ prototype ∈ [Intrinsic.objectPrototype, .listPrototype], ∀ bound,
      machine.find? toJsonKey bound prototype.address = none) {bound : Nat} {address : Address}
    (outside : start.size ≤ address) {property : Property}
    (found : machine.find? toJsonKey bound address = some property) :
    ∃ content, property = .plain content ∧ IsDatum start.size content := by
  -- By induction on the chain, which stays among data until it comes to a prototype from before.
  induction bound generalizing address with
  | zero => cases found
  | succ bound ih =>
    have isData := isData_object growth outside
    rw [Machine.find?] at found
    split at found
    · next own =>
      cases found
      exact isData.method _ own
    · split at found
      · next prototype isPrototype =>
        rcases isData.prototype prototype isPrototype with isNew | rfl | rfl
        · exact ih isNew found
        · rw [silent _ (by simp)] at found
          cases found
        · rw [silent _ (by simp)] at found
          cases found
      · cases found

/-- Data is written as it is. -/
theorem quiet_of_extends {start : Array ObjectRecord} (growth : Extends start machine.objects)
    (silent : ∀ prototype ∈ [Intrinsic.objectPrototype, .listPrototype], ∀ bound,
      machine.find? toJsonKey bound prototype.address = none) {address : Address}
    (outside : start.size ≤ address) : Quiet self machine address := by
  -- What the name leads to, if anything, is data and no function.
  have read : self.read (.object address) toJsonKey machine = _ := read_object address toJsonKey
  cases found : machine.lookup? address toJsonKey with
  | none =>
    rw [found] at read
    exact ⟨.undefined, read, rfl⟩
  | some property =>
    obtain ⟨content, rfl, datum⟩ := find?_data growth silent outside found
    rw [found] at read
    refine ⟨content, read, ?_⟩
    cases content with
    | object other =>
      have notCallable := (isData_object growth (datum other rfl)).notCallable
      exact congrArg (EStateM.Result.ok · machine) notCallable
    | _ => rfl

end Methods

section Values

variable {self : Interpreter} {machine : Machine} {depth : Nat} {area : Set Address} {value : Value}
  {json : Json}

/-- Values are written on one line, and none is left out or replaced. -/
def compactStyle : WritingStyle := ⟨none, none, []⟩

/-- A quiet object that wraps nothing is written itself. -/
private theorem prepareWritten_object {address : Address} (quiet : Quiet self machine address)
    (unwrapped : unwrap (.object address) machine = .ok (.object address) machine) (holder : Value)
    (key : Units) :
    self.prepareWritten compactStyle holder key (.object address) machine =
      .ok (.object address) machine := by
  obtain ⟨method, reads, notCallable⟩ := quiet
  unfold Interpreter.prepareWritten
  refine (Run.bind_ok reads).trans ?_
  refine (Run.bind_ok notCallable).trans ?_
  exact Run.bind_ok unwrapped

/-- Data is written itself. -/
theorem prepareWritten_holds (holds : Holds machine.objects depth area value json)
    (quiet : ∀ address ∈ area, Quiet self machine address) (holder : Value) (key : Units) :
    self.prepareWritten compactStyle holder key value machine = .ok value machine := by
  -- Objects could have a method of their own for this, and have none.
  cases holds with
  | list items inside found each =>
    refine prepareWritten_object (quiet _ inside) ?_ holder key
    exact Run.bind_ok (run_object found)
  | object prototype members inside found ascending each =>
    refine prepareWritten_object (quiet _ inside) ?_ holder key
    exact Run.bind_ok (run_object found)
  | _ => rfl

/-- A value is written as a text of some data, and nothing changes. -/
def Writes (write : Value → Run (Option Units)) (machine : Machine) (depth : Nat) (value : Value)
    (json : Json) : Prop :=
  ∃ chars, write value machine = .ok (some (Units.ofChars chars)) machine ∧
    Json.Rendered depth json chars

/-- Parts between brackets are joined by commas. -/
private theorem bracketed_compact (indent : Units) {opening closing : Char} (first last : UInt16)
    (opens : Units.ofChar opening = [first]) (closes : Units.ofChar closing = [last])
    (texts : List (List Char)) :
    bracketed compactStyle indent first last (texts.map Units.ofChars) =
      Units.ofChars (opening :: (List.intercalate [','] texts ++ [closing])) := by
  -- By induction on the parts: the unit of the comma stands where the comma does.
  have joined : List.intercalate [44] (texts.map Units.ofChars) =
      Units.ofChars (List.intercalate [','] texts) := by
    induction texts with
    | nil => rfl
    | cons text rest ih =>
      cases rest with
      | nil => simp
      | cons next rest =>
        have comma : Units.ofChars [','] = [44] := rfl
        simp only [List.map_cons, List.intercalate_cons_cons, Units.ofChars_append] at ih ⊢
        rw [ih, comma]
  have around (chars : List Char) :
      Units.ofChars (opening :: (chars ++ [closing])) = first :: (Units.ofChars chars ++ [last]) := by
    simp [Units.ofChars, opens, closes]
  rw [around, ← joined]
  cases texts with
  | nil => rfl
  | cons text rest => rfl

/-- An item of a list is read by its position. -/
private theorem readAt_list {address : Address} {values : List Value} {position : Nat} {content : Value}
    (found : machine.objects[address]? = some (listRecord values))
    (isItem : values[position]? = some content) :
    self.readAt (.object address) position machine = .ok content machine := by
  have items : (values.map some).toArray[position]? = some (some content) := by simp [isItem]
  unfold Interpreter.readAt
  refine Run.bind_get.trans ?_
  rw [object_of_found found]
  simp only [listRecord, ObjectRecord.bare, items]
  rfl

/-- Items are written one after the other. -/
private theorem writeItems_holds {write : Value → Run (Option Units)} {address : Address}
    {items : List (Value × Json)}
    (found : machine.objects[address]? = some (listRecord (items.map (·.1))))
    (prepared : ∀ item ∈ items, ∀ holder key,
      self.prepareWritten compactStyle holder key item.1 machine = .ok item.1 machine)
    (each : ∀ item ∈ items, Writes write machine depth item.1 item.2) (before after : List (Value × Json))
    (split : items = before ++ after) :
    ∃ written : List (Json × List Char),
      self.writeItems compactStyle write (.object address) after.length before.length machine =
        .ok ((written.map (·.2)).map Units.ofChars) machine ∧
      written.map (·.1) = after.map (·.2) ∧ ∀ item ∈ written, Json.Rendered depth item.1 item.2 := by
  -- By induction on the items that are left.
  induction after generalizing before with
  | nil => exact ⟨[], rfl, rfl, fun _ member => by cases member⟩
  | cons item after ih =>
    have isItem : item ∈ items := by simp [split]
    have read : self.readAt (.object address) before.length machine = .ok item.1 machine :=
      readAt_list found (by simp [split])
    obtain ⟨chars, writes, rendered⟩ := each item isItem
    obtain ⟨written, restWritten, same, restRendered⟩ := ih (before ++ [item]) (by simp [split])
    refine ⟨(item.2, chars) :: written, ?_, ?_, ?_⟩
    · rw [List.length_cons, Interpreter.writeItems, Run.bind_ok read, Run.bind_ok (prepared item isItem _ _),
        Run.bind_ok writes]
      rw [List.length_append, List.length_singleton] at restWritten
      rw [Run.bind_ok restWritten]
      rfl
    · rw [List.map_cons, List.map_cons, same]
    · exact List.forall_mem_cons.2 ⟨rendered, restRendered⟩

/-- A member of an object is an own property under its name. -/
private theorem own?_holderRecord (prototype : Option Address) {members : List (String × Value × Json)}
    (distinct : (members.map (·.1)).Nodup) {member : String × Value × Json} (isMember : member ∈ members) :
    (holderRecord prototype (members.map fun member => (member.1, member.2.1))).own?
      (Units.ofString member.1) = some (.plain member.2.1) := by
  -- No member before it has its name.
  change ((members.map fun member => (member.1, member.2.1)).map fun member =>
    (Units.ofString member.1, Property.plain member.2)).lookup (Units.ofString member.1) = _
  induction members with
  | nil => cases isMember
  | cons other rest ih =>
    obtain ⟨absent, restDistinct⟩ := List.nodup_cons.1 distinct
    rcases List.mem_cons.1 isMember with rfl | isRest
    · exact List.lookup_cons_self
    · have different : Units.ofString member.1 ≠ Units.ofString other.1 := by
        intro same
        exact absent (List.mem_map.2 ⟨member, isRest, Units.ofString_inj.1 same⟩)
      rw [List.map_cons, List.map_cons, List.lookup_cons, beq_eq_false_iff_ne.2 different]
      exact ih restDistinct isRest

/-- Names are put in order, and none gets lost. -/
private theorem listedOrder_perm (keys : List Units) : (ObjectRecord.listedOrder keys).Perm keys := by
  -- A name stands for a position or it does not.
  have others : (keys.filter fun key => (positionOf? key).isNone) =
      keys.filter fun key => !(positionOf? key).isSome := by simp
  unfold ObjectRecord.listedOrder
  extract_lets positions left
  refine ((List.mergeSort_perm _ _).append_right _).trans ?_
  rw [show left = keys.filter fun key => !(positionOf? key).isSome from others]
  exact List.filter_append_perm _ keys

/-- Images in another order are the images of values in another order. -/
private theorem exists_perm_map {α β : Type} {image : α → β} {images : List β} {values : List α}
    (perm : images.Perm (values.map image)) :
    ∃ ordered : List α, ordered.Perm values ∧ images = ordered.map image := by
  have each : List.Forall₂ (fun one value => one = image value) (values.map image) values :=
    List.forall₂_map_left_iff.2 (List.forall₂_same.2 fun _ _ => rfl)
  obtain ⟨ordered, eachOrdered, same⟩ := List.perm_comp_forall₂ perm each
  refine ⟨ordered, same, ?_⟩
  rw [← List.forall₂_eq_eq_eq, List.forall₂_map_right_iff]
  exact eachOrdered

/-- The listed names of an object are those of its members, in some order. -/
private theorem listedKeys_holderRecord (prototype : Option Address)
    {members : List (String × Value × Json)} (distinct : (members.map (·.1)).Nodup) :
    ∃ ordered : List (String × Value × Json), ordered.Perm members ∧
      listedKeys (holderRecord prototype (members.map fun member => (member.1, member.2.1))) =
        ordered.map fun member => Units.ofString member.1 := by
  -- All members are listed.
  have names : (holderRecord prototype (members.map fun member => (member.1, member.2.1))).ownKeys =
      ObjectRecord.listedOrder (members.map fun member => Units.ofString member.1) := by
    simp [ObjectRecord.ownKeys, holderRecord, Function.comp_def]
  obtain ⟨ordered, same, spelled⟩ :=
    exists_perm_map (listedOrder_perm (members.map fun member => Units.ofString member.1))
  refine ⟨ordered, same, ?_⟩
  rw [listedKeys, names, spelled]
  refine List.filter_eq_self.2 fun key isKey => ?_
  obtain ⟨member, isMember, rfl⟩ := List.mem_map.1 isKey
  rw [own?_holderRecord prototype distinct (same.subset isMember)]
  rfl

/-- A member of an object is read under its name. -/
private theorem read_member {address : Address} {prototype : Option Address}
    {members : List (String × Value × Json)} (distinct : (members.map (·.1)).Nodup)
    (found : machine.objects[address]? =
      some (holderRecord prototype (members.map fun member => (member.1, member.2.1))))
    {member : String × Value × Json} (isMember : member ∈ members) :
    self.read (.object address) (Units.ofString member.1) machine = .ok member.2.1 machine := by
  rw [read_object, lookup?_of_own found (own?_holderRecord prototype distinct isMember)]
  rfl

/-- Members are written one after the other, each behind its name. -/
private theorem writeMembers_holds {write : Value → Run (Option Units)} {object : Value}
    {members : List (String × Value × Json)}
    (reads : ∀ member ∈ members,
      self.read object (Units.ofString member.1) machine = .ok member.2.1 machine)
    (prepared : ∀ member ∈ members, ∀ holder key,
      self.prepareWritten compactStyle holder key member.2.1 machine = .ok member.2.1 machine)
    (each : ∀ member ∈ members, Writes write machine depth member.2.1 member.2.2) :
    ∃ written : List (String × Json × List Char),
      self.writeMembers compactStyle write object (members.map fun member => Units.ofString member.1)
        machine = .ok ((written.map fun member => Json.fieldText member.1 member.2.2).map Units.ofChars)
          machine ∧
      (written.map fun member => (member.1, member.2.1)) =
        (members.map fun member => (member.1, member.2.2)) ∧
      ∀ member ∈ written, Json.Rendered depth member.2.1 member.2.2 := by
  -- By induction on the members.
  induction members with
  | nil => exact ⟨[], rfl, rfl, fun _ isMember => by cases isMember⟩
  | cons member rest ih =>
    obtain ⟨readsMember, readsRest⟩ := List.forall_mem_cons.1 reads
    obtain ⟨preparedMember, preparedRest⟩ := List.forall_mem_cons.1 prepared
    obtain ⟨⟨chars, writes, rendered⟩, eachRest⟩ := List.forall_mem_cons.1 each
    obtain ⟨written, restWritten, same, restRendered⟩ := ih readsRest preparedRest eachRest
    refine ⟨(member.1, member.2.2, chars) :: written, ?_, ?_, ?_⟩
    · have field : quoteText (Units.ofString member.1) ++ [58] ++ Units.ofChars chars =
          Units.ofChars (Json.fieldText member.1 chars) := by
        have colon : Units.ofChars (':' :: chars) = 58 :: Units.ofChars chars := rfl
        rw [quoteText_ofString, Json.fieldText, Units.ofChars_append, colon, List.append_assoc]
        rfl
      rw [List.map_cons, Interpreter.writeMembers, Run.bind_ok readsMember,
        Run.bind_ok (preparedMember _ _), Run.bind_ok writes, Run.bind_ok restWritten]
      change EStateM.Result.ok ((quoteText (Units.ofString member.1) ++ [58] ++ Units.ofChars chars) :: _)
        machine = _
      rw [field]
      rfl
    · rw [List.map_cons, List.map_cons, same]
    · exact List.forall_mem_cons.2 ⟨rendered, restRendered⟩

/-- A list is written when its items are written inside it. -/
private theorem writes_list {address : Address} {items : List (Value × Json)}
    (found : machine.objects[address]? = some (listRecord (items.map (·.1))))
    (prepared : ∀ item ∈ items, ∀ holder key,
      self.prepareWritten compactStyle holder key item.1 machine = .ok item.1 machine)
    {levels : Nat} {around : List Address} (apart : address ∉ around) {indent : Units}
    (each : ∀ item ∈ items, Writes (self.writeValue compactStyle levels (address :: around)
      (indent ++ compactStyle.gap)) machine depth item.1 item.2) :
    Writes (self.writeValue compactStyle (levels + 1) around indent) machine (depth + 1)
      (.object address) (.list (items.map (·.2))) := by
  -- Its length is the number of its items.
  obtain ⟨written, itemsWritten, same, rendered⟩ := writeItems_holds found prepared each [] items rfl
  have length : self.lengthOf (.object address) machine = .ok items.length machine := by
    have known : (listRecord (items.map (·.1))).kind =
        .list ((items.map (·.1)).map some).toArray items.length .free := by
      simp [listRecord, ObjectRecord.bare]
    unfold Interpreter.lengthOf
    refine (Run.bind_ok (run_object found)).trans ?_
    rw [known]
    rfl
  have closed : around.contains address = false := by simpa using apart
  refine ⟨_, ?_, same ▸ Json.Rendered.list written rendered⟩
  rw [← bracketed_compact indent 91 93 rfl rfl]
  unfold Interpreter.writeValue
  refine (Run.bind_ok (run_object found)).trans ?_
  rw [closed]
  exact (Run.bind_ok length).trans ((Run.bind_ok itemsWritten).trans rfl)

/-- An object is written when its members are written inside it. -/
private theorem writes_object {address : Address} {prototype : Option Address}
    {members : List (String × Value × Json)}
    (found : machine.objects[address]? =
      some (holderRecord prototype (members.map fun member => (member.1, member.2.1))))
    (ascending : Entries.Ascending (members.map fun member => (member.1, member.2.2)))
    (prepared : ∀ member ∈ members, ∀ holder key,
      self.prepareWritten compactStyle holder key member.2.1 machine = .ok member.2.1 machine)
    {levels : Nat} {around : List Address} (apart : address ∉ around) {indent : Units}
    (each : ∀ member ∈ members, Writes (self.writeValue compactStyle levels (address :: around)
      (indent ++ compactStyle.gap)) machine depth member.2.1 member.2.2) :
    Writes (self.writeValue compactStyle (levels + 1) around indent) machine (depth + 1)
      (.object address) (.object (members.map fun member => (member.1, member.2.2))) := by
  -- The order in which names are listed does not matter to the map that is written.
  have distinct : (members.map (·.1)).Nodup := by
    simpa [Entries.keys, Function.comp_def] using Entries.nodup_keys ascending
  obtain ⟨ordered, perm, listed⟩ := listedKeys_holderRecord prototype distinct
  obtain ⟨written, membersWritten, same, rendered⟩ := writeMembers_holds
    (fun member isMember => read_member distinct found (perm.subset isMember))
    (fun member isMember => prepared member (perm.subset isMember))
    (fun member isMember => each member (perm.subset isMember))
  have fields : Entries.ofList (written.map fun member => (member.1, member.2.1)) =
      members.map fun member => (member.1, member.2.2) := by
    rw [same]
    exact @Dictionary.ofList_of_perm _ _ ⟨_, ascending⟩ (perm.map _)
  have closed : around.contains address = false := by simpa using apart
  refine ⟨_, ?_, fields ▸ Json.Rendered.object written rendered⟩
  rw [← bracketed_compact indent 123 125 rfl rfl]
  unfold Interpreter.writeValue
  refine (Run.bind_ok (run_object found)).trans ?_
  rw [closed]
  rw [← listed] at membersWritten
  exact (Run.bind_ok membersWritten).trans rfl

/-- The objects around a part are apart from its area. -/
private theorem apart_inside {around : List Address} {address : Address}
    (apart : ∀ other ∈ around, other ∉ area) : ∀ other ∈ address :: around, other ∉ area \ {address} := by
  refine List.forall_mem_cons.2 ⟨fun isIn => isIn.2 rfl, fun other isAround isIn => ?_⟩
  exact apart other isAround isIn.1

/-- What a value stands for is what is written of it, and nothing changes. -/
theorem writeValue_holds (holds : Holds machine.objects depth area value json)
    (quiet : ∀ address ∈ area, Quiet self machine address) {levels : Nat} (deep : depth < levels)
    {around : List Address} (apart : ∀ address ∈ around, address ∉ area) (indent : Units) :
    Writes (self.writeValue compactStyle levels around indent) machine depth value json := by
  -- By induction on the data, each part of it inside the objects around.
  obtain ⟨levels, rfl⟩ : ∃ less, levels = less + 1 := ⟨levels - 1, by omega⟩
  induction holds generalizing levels around indent with
  | null => exact ⟨_, rfl, .null⟩
  | boolean value => exact ⟨_, by cases value <;> rfl, .boolean value⟩
  | integer exact => exact ⟨_, rfl, .integer exact⟩
  | text value =>
    refine ⟨Json.writeText value, ?_, .text value⟩
    rw [← quoteText_ofString]
    rfl
  | @list depth area address items inside found each ih =>
    obtain ⟨levels, rfl⟩ : ∃ less, levels = less + 1 := ⟨levels - 1, by omega⟩
    have partsQuiet : ∀ other ∈ area \ {address}, Quiet self machine other :=
      fun other isIn => quiet other isIn.1
    exact writes_list found (fun item isItem => prepareWritten_holds (each item isItem) partsQuiet)
      (fun isAround => apart address isAround inside)
      fun item isItem => ih item isItem partsQuiet (apart_inside apart) _ levels (by omega)
  | @object depth area address prototype members inside found ascending each ih =>
    obtain ⟨levels, rfl⟩ : ∃ less, levels = less + 1 := ⟨levels - 1, by omega⟩
    have partsQuiet : ∀ other ∈ area \ {address}, Quiet self machine other :=
      fun other isIn => quiet other isIn.1
    exact writes_object found ascending
      (fun member isMember => prepareWritten_holds (each member isMember) partsQuiet)
      (fun isAround => apart address isAround inside)
      fun member isMember => ih member isMember partsQuiet (apart_inside apart) _ levels (by omega)

end Values

end Script

end PipelineTrial
