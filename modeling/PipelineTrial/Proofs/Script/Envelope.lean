import PipelineTrial.Proofs.Script.Realm

/-! What a script's function gives back is written in an envelope, if it is data. -/

namespace PipelineTrial

namespace Script

namespace Sandbox

open Interpreter

/-- What surrounds the steps around the call of the script's function. -/
def callSurrounding : Surrounding := ⟨1, .object Intrinsic.global.address, false⟩

/-- The state in the midst of those steps, with the result so far and the scopes opened since. -/
def amidCall (limits : Limits) (objects : Array ObjectRecord) (result : Value) (opened : List Scope) :
    Machine :=
  -- The steps are a function of their own, called at the top of the script.
  let names := [("result", ⟨some result, false⟩), ("text", ⟨some .undefined, false⟩)]
  ⟨objects, (⟨[], none, none⟩ :: ⟨names, some topScope, some []⟩ :: opened).toArray, limits, 2, 0⟩

section Names

/-- A name that a scope does not have leads where it leads in the scope around. -/
theorem place_parent {machine : Machine} {name : String} {bound : Nat} {address parent : Address}
    (absent : (machine.scope address).names.lookup name = none) (notArguments : name ≠ argumentsName)
    (isParent : (machine.scope address).parent = some parent) :
    machine.place name (bound + 1) address = machine.place name bound parent := by
  simp [Machine.place, absent, notArguments, isParent]

/-- A name that the outermost scope does not have leads to the global object. -/
theorem place_global {machine : Machine} {name : String} {bound : Nat} {address : Address}
    {property : Property} (absent : (machine.scope address).names = [])
    (noArguments : (machine.scope address).arguments = none)
    (outermost : (machine.scope address).parent = none)
    (leads : machine.lookup? Intrinsic.global.address (Units.ofString name) = some property) :
    machine.place name (bound + 1) address = .global property := by
  simp [Machine.place, absent, noArguments, outermost, leads]

variable {self : Interpreter} {limits : Limits} {objects : Array ObjectRecord} {result content : Value}
  {opened : List Scope} {name : String}

/-- The result so far is read. -/
theorem readName_result : self.readName callSurrounding "result" (amidCall limits objects result opened) =
    .ok result (amidCall limits objects result opened) := rfl

/-- A name leads to the global object, unless the steps have a name of their own for it. -/
theorem placeOf_global (foreign : name ∉ ["result", "text", argumentsName]) {property : Property}
    (leads : (amidCall limits objects result opened).lookup? Intrinsic.global.address
      (Units.ofString name) = some property) :
    placeOf callSurrounding name (amidCall limits objects result opened) =
      .ok (.global property) (amidCall limits objects result opened) := by
  -- The name is neither in the scope of the steps nor in the top scope.
  let machine := amidCall limits objects result opened
  obtain ⟨notResult, notText, notArguments⟩ : name ≠ "result" ∧ name ≠ "text" ∧ name ≠ argumentsName := by
    simpa using foreign
  have absent : (machine.scope 1).names.lookup name = none :=
    List.lookup_eq_none_iff.2 (by simpa [machine, Machine.scope, amidCall] using ⟨notResult, notText⟩)
  have size : machine.scopes.size = opened.length + 2 := by
    simp [machine, amidCall]
  have own : machine.place name (opened.length + 2) 1 = machine.place name (opened.length + 1) topScope :=
    place_parent absent notArguments rfl
  have top : machine.place name (opened.length + 1) topScope = .global property :=
    place_global rfl rfl rfl leads
  unfold placeOf
  refine Run.bind_get.trans ?_
  change EStateM.Result.ok (machine.place name machine.scopes.size 1) machine = _
  rw [size, own, top]

/-- What the global object stores under a name is read, unless the steps have a name of their own for it. -/
theorem readName_global (foreign : name ∉ ["result", "text", argumentsName])
    (stored : storedUnder? objects Intrinsic.global.address name = some content) :
    self.readName callSurrounding name (amidCall limits objects result opened) =
      .ok content (amidCall limits objects result opened) := by
  obtain ⟨isWritable, isEnumerable, isConfigurable, leads⟩ :=
    @lookup?_of_stored (amidCall limits objects result opened) _ _ _ stored
  unfold Interpreter.readName
  exact (Run.bind_ok (placeOf_global foreign leads)).trans rfl

end Names

section Conditions

variable {limits : Limits} {objects : Array ObjectRecord} {result : Value} {opened : List Scope}
  {levels : Nat}

/-- A function of a script is a function by its type. -/
theorem typeWord_closure {machine : Machine} {address : Address} {code : FunctionCode}
    (isClosure : IsClosure machine.objects address code) :
    typeWord (.object address) machine = .ok "function" machine := by
  obtain ⟨record, found, kind⟩ := isClosure
  have isFunction : record.isCallable = true := by rw [ObjectRecord.isCallable, kind]
  have callable : isCallable (.object address) machine = .ok true machine :=
    (Run.bind_ok (run_object found)).trans (congrArg (EStateM.Result.ok · machine) isFunction)
  exact (Run.bind_ok callable).trans rfl

/-- The script's function is not found to be missing. -/
theorem evaluate_noFunction {main : Address} {code : FunctionCode}
    (stored : storedUnder? objects Intrinsic.global.address "main" = some (.object main))
    (isClosure : IsClosure objects main code) :
    (ofDepth (levels + 2)).evaluate callSurrounding
      (.binary .strictUnequal (.unary .typeOf (.name "main")) (textLiteral "function"))
      (amidCall limits objects result opened) =
      .ok (.boolean false) (amidCall limits objects result opened) := by
  -- The name leads to the global object, and what stands there can be called.
  let machine := amidCall limits objects result opened
  obtain ⟨isWritable, isEnumerable, isConfigurable, leads⟩ := @lookup?_of_stored machine _ _ _ stored
  have word : typeWord (.object main) machine = .ok "function" machine := typeWord_closure isClosure
  have typeOf : (ofDepth (levels + 1)).evaluate callSurrounding (.unary .typeOf (.name "main")) machine =
      .ok (textValue "function") machine := by
    change (ofDepth levels).evaluateUnary callSurrounding .typeOf (.name "main") machine = _
    unfold evaluateUnary
    refine (Run.bind_ok (placeOf_global (by decide) leads)).trans ?_
    refine (Run.bind_ok (readName_global (by decide) stored)).trans ?_
    exact (Run.bind_ok word).trans rfl
  exact (Run.bind_ok typeOf).trans rfl

/-- A value that is there is not found to be missing. -/
theorem evaluate_noValue
    (undefined : storedUnder? objects Intrinsic.global.address "undefined" = some .undefined)
    (isThere : result ≠ .undefined) :
    (ofDepth (levels + 2)).evaluate callSurrounding
      (.binary .strictEqual (.name "result") (.name "undefined"))
      (amidCall limits objects result opened) =
      .ok (.boolean false) (amidCall limits objects result opened) := by
  -- Only a missing value equals one.
  let machine := amidCall limits objects result opened
  have right : (ofDepth (levels + 1)).evaluate callSurrounding (.name "undefined") machine =
      .ok .undefined machine :=
    readName_global (by decide) undefined
  have compared : (ofDepth (levels + 1)).operate .strictEqual result .undefined machine =
      .ok (.boolean false) machine := by
    cases result with
    | undefined => exact absurd rfl isThere
    | _ => rfl
  exact (Run.bind_ok readName_result).trans ((Run.bind_ok right).trans compared)

end Conditions

section Writing

variable {limits : Limits} {start objects : Array ObjectRecord} {value : Value} {opened : List Scope}
  {levels depth : Nat} {json : Json}

/-- An object that holds a single piece of data is data. -/
theorem isData_single {area : Set Address} (holds : Holds objects depth area value json)
    {base : Address} (within : area ⊆ Set.Ici base) (name : String) :
    IsData base (holderRecord (some Intrinsic.objectPrototype.address) [(name, value)]) := by
  refine isData_holderRecord (fun address same => ?_) fun member isMember address isObject => ?_
  · cases same
    exact .inr (.inl rfl)
  · cases List.mem_singleton.1 isMember
    dsimp only at isObject
    rw [isObject] at holds
    exact within holds.mem_of_object

/-- Data is written as a text of what it stands for. -/
theorem stringify_holds {self : Interpreter} {machine : Machine} (furnished : Furnished start)
    (growth : Extends start machine.objects)
    (holds : Holds machine.objects depth (Set.Ici start.size) value json) (deep : depth < 1000) :
    ∃ chars later, self.stringify value .undefined .undefined machine =
        .ok (.text (Units.ofChars chars)) later ∧ Json.Rendered depth json chars := by
  -- The object that holds the value is data as well.
  let record : ObjectRecord := holderRecord (some Intrinsic.objectPrototype.address) [("", value)]
  let held : Machine := { machine with objects := machine.objects.push record }
  have heldGrowth : Extends start held.objects :=
    growth.push (isData_single holds (Set.Subset.refl _) "")
  have heldHolds : Holds held.objects depth (Set.Ici start.size) value json :=
    holds.mono (Set.Subset.refl _) fun _ _ _ found => ((Keeps.refl machine.objects).push record).found found
  have quiet : ∀ address ∈ Set.Ici start.size, Quiet self held address := fun address outside =>
    quiet_of_extends heldGrowth (furnished.keeps heldGrowth.toKeeps).silent outside
  obtain ⟨chars, writes, rendered⟩ := @writeValue_holds self held depth (Set.Ici start.size) value json
    heldHolds quiet (held.objects.size + 1000) (by omega) [] (by simp) []
  refine ⟨chars, held, ?_, rendered⟩
  have prepared := prepareWritten_holds heldHolds quiet (.object machine.objects.size) []
  have styled : self.toStyle .undefined .undefined machine = .ok compactStyle machine := rfl
  have made : Run.makeObject [([], .plain value)] machine = .ok (.object machine.objects.size) held := rfl
  unfold stringify
  refine (Run.bind_ok styled).trans ?_
  refine (Run.bind_ok made).trans ?_
  refine (Run.bind_ok prepared).trans ?_
  refine Run.bind_get.trans ?_
  exact (Run.bind_ok writes).trans rfl

/-- The object around the result. -/
def holderOf (value : Value) : ObjectRecord :=
  holderRecord (some Intrinsic.objectPrototype.address) [("value", value)]

/-- The object around the result is made behind all objects. -/
theorem evaluate_holder :
    (ofDepth (levels + 2)).evaluate callSurrounding
      (.object [.named .value (.fixed (Units.ofString "value")) (.name "result") false])
      (amidCall limits objects value opened) =
      .ok (.object objects.size) (amidCall limits (objects.push (holderOf value)) value opened) := by
  -- The result is put on an object without members.
  let bare : ObjectRecord := .bare .plain .objectPrototype
  let change : ObjectRecord → ObjectRecord := (·.put (Units.ofString "value") (.plain value))
  have made : Run.make bare (amidCall limits objects value opened) =
      .ok objects.size (amidCall limits (objects.push bare) value opened) := rfl
  have read : (ofDepth (levels + 1)).evaluateAs callSurrounding (Units.ofString "value") (.name "result")
      (amidCall limits (objects.push bare) value opened) =
      .ok value (amidCall limits (objects.push bare) value opened) := readName_result
  have altered : Run.alter objects.size change (amidCall limits (objects.push bare) value opened) =
      .ok () (amidCall limits ((objects.push bare).modify objects.size change) value opened) := rfl
  have put : change bare = holderOf value := rfl
  rw [modify_pushed, put] at altered
  have filled : (ofDepth (levels + 1)).evaluateMembers callSurrounding objects.size
      [.named .value (.fixed (Units.ofString "value")) (.name "result") false]
      (amidCall limits (objects.push bare) value opened) =
      .ok () (amidCall limits (objects.push (holderOf value)) value opened) := by
    rw [evaluateMembers_named]
    exact (Run.bind_ok ((Run.bind_ok read).trans altered)).trans rfl
  rw [evaluate_succ]
  exact (Run.bind_ok made).trans ((Run.bind_ok filled).trans rfl)

/-- The object around data is data, one level deeper. -/
theorem holds_holder {area : Set Address} (holds : Holds objects depth area value json)
    (apart : objects.size ∉ area) :
    Holds (objects.push (holderOf value)) (depth + 1) (insert objects.size area) (.object objects.size)
      (.object [("value", json)]) := by
  -- The data keeps its area, of which the new object is no part.
  refine .object _ [("value", value, json)] (Set.mem_insert _ _) Array.getElem?_push_size
    (List.pairwise_singleton _ _) fun member isMember => ?_
  cases List.mem_singleton.1 isMember
  refine holds.mono (fun address isIn => ⟨Set.mem_insert_of_mem _ isIn, ?_⟩) fun _ _ _ found => ?_
  · rintro rfl
    exact apart isIn
  · exact ((Keeps.refl objects).push _).found found

/-- The result is written in an envelope. -/
theorem evaluate_envelope (furnished : Furnished start) (growth : Extends start objects)
    (holds : Holds objects depth (Set.Ico start.size objects.size) value json) (deep : depth < 999)
    (room : 2 < limits.calls) :
    ∃ chars later, (ofDepth (levels + 3)).evaluate callSurrounding (envelope "value" (.name "result"))
        (amidCall limits objects value opened) = .ok (.text (Units.ofChars chars)) later ∧
      Json.Rendered (depth + 1) (.object [("value", json)]) chars := by
  -- The writer is called on the object around the result, which is data.
  obtain ⟨writer, stringify, isWriter, isStringify, writes⟩ := (furnished.keeps growth.toKeeps).writer
  let machine := amidCall limits objects value opened
  let held := amidCall limits (objects.push (holderOf value)) value opened
  have heldGrowth : Extends start held.objects :=
    growth.push (isData_single holds (fun _ isIn => isIn.1) "value")
  have heldHolds : Holds held.objects (depth + 1) (Set.Ici start.size) (.object objects.size)
      (.object [("value", json)]) := by
    refine (holds_holder holds fun isIn => Nat.lt_irrefl _ isIn.2).mono ?_ fun _ _ _ found => found
    exact Set.insert_subset growth.grown fun _ isIn => isIn.1
  obtain ⟨chars, later, written, rendered⟩ := @stringify_holds start _ _ _ (ofDepth (levels + 1)) held
    furnished heldGrowth heldHolds (by omega)
  refine ⟨chars, later, ?_, rendered⟩
  have callee : (ofDepth (levels + 2)).evaluateCallee callSurrounding
      (memberOf (.name "JSON") "stringify") machine = .ok (.object stringify, .object writer) machine := by
    have read : (ofDepth (levels + 2)).evaluate callSurrounding (.name "JSON") machine =
        .ok (.object writer) machine :=
      readName_global (by decide) isWriter
    unfold evaluateCallee memberOf
    refine (Run.bind_ok read).trans ?_
    exact (Run.bind_ok (read_of_stored isStringify)).trans rfl
  have passed : (ofDepth (levels + 2)).evaluateItems callSurrounding
      [.single (.object [.named .value (.fixed (Units.ofString "value")) (.name "result") false])] machine =
      .ok [.object objects.size] held :=
    (Run.bind_ok evaluate_holder).trans rfl
  have called : (ofDepth (levels + 2)).call (.object stringify) (.object writer) [.object objects.size]
      held = .ok (.text (Units.ofChars chars)) later := by
    have stillWrites : held.objects[stringify]?.bind builtinOf? = some (.jsonOperation .stringify) :=
      ((Keeps.refl objects).push _).bind_eq writes
    exact (call_builtin stillWrites room).trans written
  rw [evaluate_succ, envelope, callOn]
  refine (Run.bind_ok callee).trans ?_
  exact (Run.bind_ok passed).trans called

end Writing

section Steps

variable {limits : Limits} {start objects : Array ObjectRecord} {levels depth : Nat} {main : Address}
  {code : FunctionCode} {inputs json : Json}

/-- Whatever else has been made, the call of the script's function on the inputs gives new data back. -/
def GivesBack (limits : Limits) (start : Array ObjectRecord) (levels depth : Nat) (inputs json : Json) :
    Prop :=
  ∀ objects, Keeps start objects → ∃ value later opened,
    (ofDepth levels).evaluate callSurrounding (callOn (.name "main") (literal inputs))
        (amidCall limits objects .undefined []) = .ok value (amidCall limits later .undefined opened) ∧
      Extends objects later ∧ Holds later depth (Set.Ico objects.size later.size) value json

/-- The steps around the call leave with what it gives back in an envelope. -/
theorem executeList_callSteps (furnished : Furnished start)
    (stored : storedUnder? start Intrinsic.global.address "main" = some (.object main))
    (isClosure : IsClosure start main code)
    (givesBack : GivesBack limits start (levels + 3) depth inputs json) (keeps : Keeps start objects)
    (room : 2 < limits.calls) (shallow : depth < 999) :
    ∃ chars later, (ofDepth (levels + 4)).executeList callSurrounding (callSteps inputs)
        (amidCall limits objects .undefined []) = .ok (.left (.text (Units.ofChars chars))) later ∧
      Json.Rendered (depth + 1) (.object [("value", json)]) chars := by
  -- There is a function, and it gives a value.
  obtain ⟨value, called, opened, evaluated, growth, holds⟩ := givesBack objects keeps
  have furnishedThen := furnished.keeps keeps
  let before := amidCall limits objects .undefined []
  let after := amidCall limits called value opened
  obtain ⟨chars, later, written, rendered⟩ :=
    @evaluate_envelope limits objects called value opened levels depth json furnishedThen growth holds
      shallow room
  refine ⟨chars, later, ?_, rendered⟩
  have found : (ofDepth (levels + 4)).execute callSurrounding
      (.branch (.binary .strictUnequal (.unary .typeOf (.name "main")) (textLiteral "function"))
        (.block [leaveError "code must define function main(inputs)"]) none) before =
      .ok .normal before :=
    (Run.bind_ok (evaluate_noFunction (storedUnder?_keeps keeps stored) (isClosure.keeps keeps))).trans rfl
  have declared : (ofDepth (levels + 4)).execute callSurrounding
      (.declare .functionScoped [(.name "result", some (callOn (.name "main") (literal inputs)))]) before =
      .ok .normal after := by
    have declares : (ofDepth (levels + 3)).executeDeclaration callSurrounding .functionScoped
        [(.name "result", some (callOn (.name "main") (literal inputs)))] before = .ok () after :=
      (Run.bind_ok evaluated).trans rfl
    exact (Run.bind_ok declares).trans rfl
  have given : (ofDepth (levels + 4)).execute callSurrounding
      (.branch (.binary .strictEqual (.name "result") (.name "undefined"))
        (.block [leaveError "main(inputs) must return a value"]) none) after = .ok .normal after :=
    (Run.bind_ok (evaluate_noValue (storedUnder?_keeps growth.toKeeps furnishedThen.undefined)
      holds.ne_undefined)).trans rfl
  have left : (ofDepth (levels + 4)).execute callSurrounding
      (.leave (some (envelope "value" (.name "result")))) after =
      .ok (.left (.text (Units.ofChars chars))) later :=
    (Run.bind_ok written).trans rfl
  unfold callSteps
  refine (Run.bind_ok found).trans ?_
  refine (Run.bind_ok declared).trans ?_
  refine (Run.bind_ok given).trans ?_
  exact (Run.bind_ok left).trans rfl

/-- The state at the top of a script, itself counting as a call under way. -/
def atTop (limits : Limits) (objects : Array ObjectRecord) : Machine :=
  -- The top scope is empty.
  ⟨objects, #[⟨[], none, none⟩], limits, 1, 0⟩

/-- The body of the function around the call: what the steps throw is caught. -/
def guardedSteps (inputs : Json) : List Statement :=
  [.attempt (callSteps inputs)
    (some (some (.name "e"),
      [.declare .functionScoped [(.name "text", some caughtText)],
        .leave (some (envelope "error" (.name "text")))])) none]

/-- The function around the call gives the value that the steps leave with. -/
theorem callClosure_guardedSteps {value : Value} {later : Machine}
    (runs : (ofDepth (levels + 1)).executeList callSurrounding (callSteps inputs)
      (amidCall limits objects .undefined []) = .ok (.left value) later) :
    (ofDepth (levels + 2)).callClosure (.mk none [] none (guardedSteps inputs) false false false)
      topScope none .undefined [] { atTop limits objects with calls := 2 } = .ok value later := by
  -- Nothing is thrown, and the block has no names of its own.
  let machine := amidCall limits objects .undefined []
  have block : (ofDepth (levels + 1)).executeBlock callSurrounding (callSteps inputs) machine =
      .ok (.left value) later := by
    have entered : enterBlock callSurrounding (callSteps inputs) machine =
        .ok callSurrounding machine := rfl
    exact (Run.bind_ok entered).trans runs
  have attempted : (ofDepth (levels + 2)).executeList callSurrounding (guardedSteps inputs) machine =
      .ok (.left value) later :=
    (Run.bind_ok (Run.tryCatch_ok block _)).trans rfl
  exact (Run.bind_ok attempted).trans rfl

/-- The call of the script's function gives its data in an envelope. -/
theorem evaluate_outerCall (furnished : Furnished start)
    (stored : storedUnder? start Intrinsic.global.address "main" = some (.object main))
    (isClosure : IsClosure start main code)
    (givesBack : GivesBack limits start (levels + 3) depth inputs json) (room : 2 < limits.calls)
    (shallow : depth < 999) :
    ∃ chars later, (ofDepth (levels + 7)).evaluate topSurrounding (outerCall inputs false)
        (atTop limits start) = .ok (.text (Units.ofChars chars)) later ∧
      Json.Rendered (depth + 1) (.object [("value", json)]) chars := by
  -- The function around the call is made first.
  obtain ⟨objects, made, grown, isOuter⟩ := makeClosure_ok (atTop limits start)
    (.object Intrinsic.global.address) false none [] none (guardedSteps inputs) false []
  obtain ⟨chars, later, runs, rendered⟩ :=
    executeList_callSteps furnished stored isClosure givesBack grown room shallow
  have callee : (ofDepth (levels + 6)).evaluateCallee topSurrounding
      (.function (.mk none [] none (guardedSteps inputs) false false false)) (atTop limits start) =
      .ok (.object start.size, .undefined) (atTop limits objects) :=
    (Run.bind_ok made).trans rfl
  have called := @call_closure (levels + 5) (atTop limits objects) _ start.size _ _ _ isOuter
    (Nat.lt_of_succ_lt room) (callClosure_guardedSteps runs)
  exact ⟨chars, _, (Run.bind_ok callee).trans called, rendered⟩

end Steps

end Sandbox

end Script

end PipelineTrial
