import PipelineTrial.Proofs.Json.Rendering
import PipelineTrial.Proofs.Script.Envelope
import PipelineTrial.Proofs.Script.Lexeme
import PipelineTrial.Run.Executors

/-! Code that gives its inputs back gives them as they are, but for members that set the prototype. -/

namespace PipelineTrial

namespace Script

namespace Sandbox

open Interpreter

/-- Code that gives its inputs back. -/
def identity : String := "function main(inputs) { return inputs; }"

/-- The function that the code declares. -/
def identityFunction : FunctionCode :=
  -- It has one parameter and one step.
  .mk (some "main") [.mk (.name "inputs") none] none [.leave (some (.name "inputs"))] false false false

/-- The code as a program: the end of a statement stands behind the function. -/
def identityProgram : Program := ⟨[.function identityFunction, .empty], false⟩

/-- The tokens of the code; the end of a statement stands on a line of its own. -/
def identityTokens : List Token :=
  [wordToken "function", wordToken "main", markToken "(", wordToken "inputs", markToken ")", markToken "\x7b",
    wordToken "return", wordToken "inputs", markToken ";", markToken "\x7d", .mk (.mark ";") true]

/-- The code is read as the program. -/
theorem parseProgram?_identity : parseProgram? (sourceOf identity) = some identityProgram := by
  -- The text is short and has no inputs in it, so reading it can be computed.
  have tokens : tokensOf? (sourceOf identity) = some identityTokens := rfl
  unfold parseProgram?
  rw [tokens]
  rfl

section Call

variable {limits : Limits} {start objects : Array ObjectRecord} {levels depth : Nat} {main : Address}

/-- The scope of a call of the function. -/
def identityScope (value : Value) : Scope :=
  -- The only name in it is that of the parameter.
  ⟨[("inputs", ⟨some value, false⟩)], some topScope, some [value]⟩

/-- The function gives back what it is called on. -/
theorem callClosure_identityFunction (value : Value) :
    (ofDepth (levels + 2)).callClosure identityFunction topScope none .undefined [value]
      { amidCall limits objects .undefined [] with calls := 3 } =
      .ok value { amidCall limits objects .undefined [identityScope value] with calls := 3 } := by
  -- What the value is makes no difference to the steps of the call.
  cases value <;> rfl

/-- The call of the function on the inputs gives back what is kept of them. -/
theorem givesBack_identity {inputs : Json} (exact : Exact depth inputs) (deep : depth ≤ levels + 1)
    (stored : storedUnder? start Intrinsic.global.address "main" = some (.object main))
    (isClosure : IsClosure start main identityFunction) (room : 2 < limits.calls) :
    GivesBack limits start (levels + 4) depth inputs (kept inputs) := by
  -- The call evaluates the name of the function, then the literal of the inputs, and then runs the function.
  intro objects keeps
  let machine := amidCall limits objects .undefined []
  obtain ⟨value, later, evaluated, growth, holds⟩ :=
    @evaluate_literal callSurrounding depth inputs exact (levels + 1) deep machine
  have grown : Keeps objects later := growth.toKeeps
  refine ⟨value, later, [identityScope value], ?_, growth, holds⟩
  -- The name is that of the member of the global object.
  have callee : (ofDepth (levels + 3)).evaluateCallee callSurrounding (.name "main") machine =
      .ok (.object main, .undefined) machine := by
    have read : (ofDepth (levels + 3)).evaluate callSurrounding (.name "main") machine =
        .ok (.object main) machine :=
      readName_global (by decide) (storedUnder?_keeps keeps stored)
    unfold evaluateCallee
    exact (Run.bind_ok read).trans rfl
  -- The literal adds its objects behind all others.
  have passed : (ofDepth (levels + 3)).evaluateItems callSurrounding [.single (literal inputs)] machine =
      .ok [value] (amidCall limits later .undefined []) :=
    (Run.bind_ok evaluated).trans rfl
  -- The function is still there and gives back the value, and with it what it holds.
  have called : (ofDepth (levels + 3)).call (.object main) .undefined [value]
      (amidCall limits later .undefined []) =
      .ok value (amidCall limits later .undefined [identityScope value]) :=
    call_closure (isClosure.keeps (keeps.trans grown)) room (callClosure_identityFunction value)
  rw [evaluate_succ, callOn]
  refine (Run.bind_ok callee).trans ?_
  exact (Run.bind_ok passed).trans called

/-- The program makes its function a member of the global object. -/
theorem declareScript_identity (furnished : Furnished start) :
    ∃ later, declareScript identityProgram.body (atTop limits start) = .ok () (atTop limits later) ∧
      Furnished later ∧
      storedUnder? later Intrinsic.global.address "main" = some (.object start.size) ∧
      IsClosure later start.size identityFunction := by
  -- It declares nothing else.
  obtain ⟨objects, made, grown, isClosure⟩ := makeClosure_ok (atTop limits start)
    (.object Intrinsic.global.address) false (some "main") [.mk (.name "inputs") none] none
    [.leave (some (.name "inputs"))] false []
  have furnishedThen : Furnished objects := furnished.keeps grown
  refine ⟨withMain objects (.object start.size), ?_, furnishedThen.withMain _,
    storedUnder?_main furnishedThen _, isClosure.withMain furnishedThen _⟩
  have declares : (do
      let content ← makeClosure topSurrounding identityFunction []
      Run.alter Intrinsic.global.address
        (·.put (Units.ofString "main") ⟨.stored content true, true, false⟩)) (atTop limits start) =
      .ok () (atTop limits (withMain objects (.object start.size))) :=
    (Run.bind_ok made).trans rfl
  exact (Run.bind_ok declares).trans rfl

/-- The program gives what is kept of the inputs in an envelope. -/
theorem runProgram_identity (furnished : Furnished start) {inputs : Json} (exact : Exact depth inputs)
    (deep : depth ≤ levels + 1) (shallow : depth < 999) (room : 2 < limits.calls) :
    ∃ chars later,
      runProgram (ofDepth (levels + 8)) identityProgram inputs (atTop limits start) =
        .ok (.text (Units.ofChars chars)) later ∧
      Json.Rendered (depth + 1) (.object [("value", kept inputs)]) chars := by
  -- The declaration, the body and the call come one after another, and the body does nothing.
  obtain ⟨declared, declares, furnishedThen, stored, isClosure⟩ :=
    @declareScript_identity limits start furnished
  obtain ⟨chars, later, evaluated, rendered⟩ := evaluate_outerCall furnishedThen stored isClosure
    (givesBack_identity exact deep stored isClosure room) room shallow
  refine ⟨chars, later, ?_, rendered⟩
  have executed : (ofDepth (levels + 8)).executeList topSurrounding identityProgram.body
      (atTop limits declared) = .ok .normal (atTop limits declared) := rfl
  refine (Run.bind_ok declares).trans ?_
  exact (Run.bind_ok executed).trans evaluated

end Call

section Evaluation

variable {limits : Limits} {depth : Nat}

/-- The depth of evaluation is always enough for inputs. -/
theorem depthFor_enough (limits : Limits) (source : List Char) :
    ∃ levels, depthFor limits source = levels + 8 ∧ 999 ≤ levels := by
  -- A fixed share of it is there for any limit and any source.
  refine ⟨(limits.calls + 2) * (4 * source.length + 64) + 99992, rfl, ?_⟩
  exact Nat.le_add_left_of_le (by decide)

/-- Code that can be read and gives a text gives that text. -/
theorem runCode_of_text (room : leastCalls ≤ limits.calls) {code : String} {program : Program}
    (reads : parseProgram? (sourceOf code) = some program) {inputs : Json} {units : Units}
    {later : Machine}
    (runs : runProgram (ofDepth (depthFor limits (sourceOf code))) program inputs (Machine.start limits) =
      .ok (.text units) later) :
    runCode limits code inputs = .ok units.toStringEscaped := by
  -- The room for the fewest calls is checked before the code is read.
  rw [runCode, if_neg (Nat.not_lt.2 room)]
  simp only [reads, runs]

/-- The code writes an envelope that holds what is kept of the inputs. -/
theorem runCode_identity (room : leastCalls ≤ limits.calls) {inputs : Json} (exact : Exact depth inputs)
    (shallow : depth < 999) :
    ∃ chars, runCode limits identity inputs = .ok (String.ofList chars) ∧
      Json.Rendered (depth + 1) (.object [("value", kept inputs)]) chars := by
  -- The code is read as the program, which is run on all objects that there are at first.
  obtain ⟨levels, same, enough⟩ := depthFor_enough limits (sourceOf identity)
  obtain ⟨chars, later, runs, rendered⟩ :=
    @runProgram_identity limits _ levels depth furnished_start inputs exact (by omega) shallow room
  refine ⟨chars, ?_, rendered⟩
  rw [← Units.toStringEscaped_ofChars]
  rw [← same] at runs
  exact runCode_of_text room parseProgram?_identity runs

/-- An envelope with nothing but a value holds that value. -/
theorem openEnvelope_value {chars : List Char} {json : Json}
    (rendered : Json.Rendered depth (.object [("value", json)]) chars) (shallow : depth ≤ Json.depthLimit) :
    openEnvelope (String.ofList chars) = .ok json := by
  -- The text is read back as the object, which has no other member.
  have noError : (Json.object [("value", json)]).field? "error" = none := rfl
  have value : (Json.object [("value", json)]).field? "value" = some json := rfl
  simp only [openEnvelope, rendered.parse? shallow, noError, value]

/-- The code gives what is kept of its inputs, as long as the envelope around them can be read. -/
theorem evaluate_identity (room : leastCalls ≤ limits.calls) {inputs : Inputs}
    (exact : ∀ field ∈ inputs.entries, Exact depth field.2) (shallow : depth + 2 ≤ Json.depthLimit) :
    evaluate limits identity inputs = .ok (.object (keptFields inputs.entries)) := by
  -- The inputs are one level of their own, and the envelope is another.
  have within : depth + 1 < 999 := Nat.lt_of_le_of_lt (Nat.le_of_succ_le shallow) (by decide)
  obtain ⟨chars, written, rendered⟩ :=
    runCode_identity room (Exact.object inputs.ascending exact) within
  rw [evaluate, Json.ofDictionary, written]
  exact openEnvelope_value rendered shallow

end Evaluation

section Response

variable {σ : Type} {limits : Limits} {node : Node} {depth : Nat} {inputs : Inputs}

/-- A node with the code answers at once, with what is kept of its inputs. -/
theorem respond_kept (room : leastCalls ≤ limits.calls) (isIdentity : node.kind = .code identity)
    (shallow : depth + 2 ≤ Json.depthLimit) (exact : ∀ field ∈ inputs.entries, Exact depth field.2)
    (now : Duration) (world : σ) :
    (Executor.ofSandbox limits).respond node inputs now world =
      (.answer Duration.zero (.ok (.object (keptFields inputs.entries))), world) := by
  -- The kind of the node has its code evaluated.
  simp only [Executor.ofSandbox, isIdentity, evaluate_identity room exact shallow, Except.mapError]

/-- The code drops the inputs' members that set a prototype, and so hands them through when there are none. -/
theorem respond_identity (room : leastCalls ≤ limits.calls) (isIdentity : node.kind = .code identity)
    (shallow : depth + 2 ≤ Json.depthLimit) (exact : ∀ field ∈ inputs.entries, Exact depth field.2)
    (now : Duration) (world : σ) :
    (Executor.ofSandbox limits).respond node inputs now world =
        (.answer Duration.zero (.ok (.object (keptFields inputs.entries))), world) ∧
      ((Executor.ofSandbox limits).respond node inputs now world =
          (.answer Duration.zero (.ok (.ofDictionary inputs)), world) ↔
        fieldsNamePrototype inputs.entries = false) := by
  -- What is kept is all exactly when there is nothing to be dropped.
  have responds := respond_kept room isIdentity shallow exact now world
  refine ⟨responds, ?_⟩
  rw [responds, ← keptFields_eq_self_iff, Json.ofDictionary]
  simp

end Response

/-- A node that runs the code. -/
def identityNode : Node := ⟨"a", .code identity, [], [], .empty, .abort, .finish⟩

/-- Inputs with a member that sets a prototype at each of two depths. -/
def namingInputs : Inputs :=
  ⟨[("__proto__", .integer 1), ("items", .list [.object [("__proto__", .null), ("b", .text "c")]])],
    List.pairwise_pair.2 (by decide)⟩

/-- Members that set a prototype are dropped at both depths, so the inputs are not handed through. -/
theorem respond_identity_naming :
    leastCalls ≤ defaultLimits.calls ∧ identityNode.kind = .code identity ∧ 2 + 2 ≤ Json.depthLimit ∧
      (∀ field ∈ namingInputs.entries, Exact 2 field.2) ∧
      (Executor.ofSandbox defaultLimits).respond identityNode namingInputs Duration.zero () =
        (.answer Duration.zero (.ok (.object [("items", .list [.object [("b", .text "c")]])])), ()) ∧
      (Executor.ofSandbox defaultLimits).respond identityNode namingInputs Duration.zero () ≠
        (.answer Duration.zero (.ok (.ofDictionary namingInputs)), ()) := by
  -- The inputs have two levels below them, and all in them is kept exactly but for the two members.
  have inner : ∀ field ∈ [("__proto__", Json.null), ("b", .text "c")], Exact 0 field.2 := by
    intro field isField
    rcases List.mem_pair.1 isField with rfl | rfl
    · exact .null
    · exact .text "c"
  have exact : ∀ field ∈ namingInputs.entries, Exact 2 field.2 := by
    intro field isField
    rcases List.mem_pair.1 isField with rfl | rfl
    · exact .integer (by decide)
    · refine .list fun item isItem => ?_
      rw [List.mem_singleton.1 isItem]
      exact .object (List.pairwise_pair.2 (by decide)) inner
  have drops : keptFields namingInputs.entries = [("items", .list [.object [("b", .text "c")]])] := rfl
  have names : fieldsNamePrototype namingInputs.entries ≠ false := by decide
  have room : leastCalls ≤ defaultLimits.calls := by decide
  have isIdentity : identityNode.kind = .code identity := rfl
  have shallow : 2 + 2 ≤ Json.depthLimit := by decide
  obtain ⟨responds, handsThrough⟩ :=
    respond_identity room isIdentity shallow exact Duration.zero ()
  rw [drops] at responds
  exact ⟨room, isIdentity, shallow, exact, responds, handsThrough.not.2 names⟩

/-- A single member that sets the prototype is not handed through. -/
theorem respond_prototype :
    ∃ inputs : Inputs, inputs.entries = [("__proto__", .integer 1)] ∧
      (∀ field ∈ inputs.entries, Exact 100 field.2) ∧
      (Executor.ofSandbox defaultLimits).respond identityNode inputs Duration.zero () =
        (.answer Duration.zero (.ok (.object [])), ()) ∧
      (Executor.ofSandbox defaultLimits).respond identityNode inputs Duration.zero () ≠
        (.answer Duration.zero (.ok (.ofDictionary inputs)), ()) := by
  -- Nothing is kept of the inputs.
  let inputs : Inputs := ⟨[("__proto__", .integer 1)], List.pairwise_singleton _ _⟩
  have exact : ∀ field ∈ inputs.entries, Exact 100 field.2 := by
    intro field isField
    rw [List.mem_singleton.1 isField]
    exact .integer (by decide)
  have responds := respond_kept (show leastCalls ≤ defaultLimits.calls by decide)
    (show identityNode.kind = .code identity from rfl) (by decide) exact Duration.zero ()
  have drops : keptFields inputs.entries = [] := rfl
  rw [drops] at responds
  refine ⟨inputs, rfl, exact, responds, ?_⟩
  rw [responds]
  simp [Json.ofDictionary, inputs]

end Sandbox

end Script

end PipelineTrial
